import AgentCompanyOS.Runtime.Claim

/-!
# What one step of the system does to the store

A call at a point writes the kinds of that point, or it is a claim that dispatches. A
synchronous command writes the ordinary kinds, or it changes the operational tables.
The invariants of a run are proved against `Effect`, which puts these together.
-/

set_option autoImplicit false

namespace AgentCompanyOS.Runtime

open Foundation Foundation.Txn Domain

/-! ## Calls -/

/-- The kinds of writes that the transactions of a point make when they dispatch
nothing. -/
def Point.kinds : Point → List Kind
  | .driveEntry .. => []
  | .claim .. => [.run, .audit]
  | .model .. => [.domain, .succeed, .action, .run, .audit]
  | .failing .. => [.domain, .run, .audit]
  | .invoke .. => refusalKinds
  | .entering .. => []
  | .executing .. => []
  | .replied .. => [.receipt, .review, .run, .audit]
  | .again .. => [.receipt, .review, .run, .audit]
  | .resumeExpire .. => [.review, .audit]
  | .resumeOpen .. => [.domain, .run, .audit]
  | .restoreWait .. => [.domain, .run]
  | .recoverOpen .. => [.review, .run, .audit]
  | .lookUp .. => []
  | .recoverApply .. => [.receipt, .review, .run, .audit]
  | .repair .. => [.review, .run, .audit]

/-- What a step of a call does to the store. -/
inductive CallEffect (platform : Platform) (call : Call) (w w' : World RuntimeStore) : Prop
  | wrote (later : w.Later w')
      (moved : Relation.ReflTransGen (Write call.point.kinds) w.store w'.store)
  | dispatched (workspaceId : WorkspaceId) (runId : AgentRunId) (action : Action)
      (expected : Version) (point : call.point = .invoke workspaceId runId action expected)
      (later : w.Later w') (d : Dispatch) (governed : Option GovernedAction)
      (v : World RuntimeStore) (same : d.action = action)
      (facts : Dispatched platform call.host runId expected w v w' d governed)

theorem CallEffect.of_moves {platform : Platform} {call : Call} {K : List Kind}
    (kinds : call.point.kinds = K) {α : Type} {m : RuntimeTxn α} (hm : Moves (writes K) m)
    {w : World RuntimeStore} : CallEffect platform call w (World.after (m w)) :=
  .wrote (hm w).1 (kinds ▸ (hm w).2)

theorem CallEffect.same {platform : Platform} {call : Call} {w : World RuntimeStore} :
    CallEffect platform call w w := .wrote (.refl w) .refl

/-- The kinds of writes of a claim that dispatches. -/
abbrev claimKinds : List Kind := [.prepare, .audit, .domain, .run, .invocation, .claim]

/-- A claim dispatches, or writes what a refusal writes. -/
theorem invoke_effect {platform : Platform} {call : Call} {w : World RuntimeStore}
    {workspaceId : WorkspaceId} {runId : AgentRunId} {action : Action} {expected : Version}
    (point : call.point = .invoke workspaceId runId action expected) :
    CallEffect platform call w
      (World.after (invokeClaim platform call.host workspaceId runId action expected w)) := by
  have later : w.Later
      (World.after (invokeClaim platform call.host workspaceId runId action expected w)) :=
    (moves_invokeClaim (K := claimKinds) platform call.host workspaceId runId action expected w).1
  cases h : invokeClaim platform call.host workspaceId runId action expected w with
  | ok result w' =>
      rw [h] at later
      cases invokeClaim_eq_ok h with
      | returned run moved =>
          refine .wrote later ?_
          rw [point]
          exact moved
      | dispatched d governed v same facts =>
          exact .dispatched workspaceId runId action expected point later d governed v same facts
  | error e w' =>
      rw [h] at later
      refine .wrote later ?_
      show Relation.ReflTransGen _ w.store w'.store
      rw [atomic_eq_error h]

/-- A model reply leads to one of the two decision transactions or to none. -/
theorem decide_effect {platform : Platform} {call : Call} (shared : Shared)
    {loop : Loop} {iteration : ClaimedIteration} (point : call.point = .model loop iteration)
    (reply : Except Exc PyStr) (answers : PortAnswers) :
    CallEffect platform call shared.world
      (shared.decide platform call.host loop iteration call.frames reply answers).shared.world := by
  have kinds : call.point.kinds = [.domain, .succeed, .action, .run, .audit] := by rw [point]; rfl
  unfold Shared.decide
  split
  · exact .same
  · split
    · exact .same
    · split
      · exact .of_moves kinds (moves_driveToolAction _ _ _ _ _ _ _)
      · exact .of_moves kinds (moves_driveAction _ _ _ _ _ _ _)

/-- A step of an executor leaves the store alone. -/
theorem execute_world (platform : Platform) (shared : Shared) (d : Dispatch) (frames : List Frame)
    (input : Input) : (shared.execute platform d frames input).shared.world = shared.world := by
  unfold Shared.execute
  split <;> rfl

/-- A lookup leaves the store alone. -/
theorem lookUp_world (platform : Platform) (shared : Shared) (call : Call)
    (workspaceId : WorkspaceId) (runId : AgentRunId) (invocationId : ToolInvocationId)
    (invocation : ToolInvocation) (connector : Connector) :
    (shared.lookUp platform call workspaceId runId invocationId invocation
      connector).shared.world = shared.world := by
  unfold Shared.lookUp
  split <;> rfl

theorem advance_effect (platform : Platform) (shared : Shared) (call : Call) (input : Input) :
    CallEffect platform call shared.world (shared.advance platform call input).shared.world := by
  obtain ⟨id, host, point, frames⟩ := call
  cases point with
  | driveEntry workspaceId runId expected =>
      cases input with
      | next => exact .of_moves (K := []) rfl (idle_driveEntry _ _ _).moves
      | _ => exact .same
  | claim loop =>
      cases input with
      | ports answers => exact .of_moves (K := [.run, .audit]) rfl (moves_driveClaim _ _ _ _ _)
      | _ => exact .same
  | model loop iteration =>
      cases input with
      | model reply answers => exact decide_effect shared rfl reply answers
      | _ => exact .same
  | failing workspaceId runId code cancelled =>
      cases input with
      | next =>
          exact .of_moves (K := [.domain, .run, .audit]) rfl (moves_failingTxn _ _ _ _ _)
      | _ => exact .same
  | invoke workspaceId runId action expected =>
      cases input with
      | next => exact invoke_effect rfl
      | _ => exact .same
  | entering d =>
      cases input with
      | next => exact .same
      | _ => exact .same
  | executing d =>
      have world := execute_world platform shared d frames input
      show CallEffect platform _ _ (shared.execute platform d frames input).shared.world
      rw [world]
      exact .same
  | replied d reply =>
      cases input with
      | next =>
          exact .of_moves (K := [.receipt, .review, .run, .audit]) rfl
            (moves_reconcileReply _ _ _ _ _ _ _ _)
      | _ => exact .same
  | again d error =>
      cases input with
      | next =>
          exact .of_moves (K := [.receipt, .review, .run, .audit]) rfl
            (moves_reconcileReply _ _ _ _ _ _ _ _)
      | _ => exact .same
  | resumeExpire workspaceId runId intentId expected =>
      cases input with
      | next =>
          show CallEffect platform _ _ (ite _ _ _ : Advance).shared.world
          split
          · exact .same
          · exact .of_moves (K := [.review, .audit]) rfl (moves_expire _ _ _)
      | _ => exact .same
  | resumeOpen workspaceId runId intentId expected =>
      cases input with
      | next =>
          exact .of_moves (K := [.domain, .run, .audit]) rfl (moves_resumeOpen _ _ _ _ _ _)
      | _ => exact .same
  | restoreWait workspaceId runId intentId resumed error =>
      cases input with
      | next => exact .of_moves (K := [.domain, .run]) rfl (moves_resumeRestore _ _ _ _ _)
      | _ => exact .same
  | recoverOpen workspaceId runId invocationId connector =>
      cases input with
      | next =>
          exact .of_moves (K := [.review, .run, .audit]) rfl (moves_recoverOpen _ _ _ _ _ _)
      | _ => exact .same
  | lookUp workspaceId runId invocationId invocation connector =>
      cases input with
      | next =>
          have world := lookUp_world platform shared ⟨id, host,
            .lookUp workspaceId runId invocationId invocation connector, frames⟩ workspaceId runId
            invocationId invocation connector
          show CallEffect platform _ _ (shared.lookUp platform _ _ _ _ _ _).shared.world
          rw [world]
          exact .same
      | _ => exact .same
  | recoverApply workspaceId runId invocationId invocation lookup =>
      cases input with
      | next =>
          exact .of_moves (K := [.receipt, .review, .run, .audit]) rfl
            (moves_recoverApply _ _ _ _ _ _ _)
      | _ => exact .same
  | repair receipt =>
      cases input with
      | next =>
          exact .of_moves (K := [.review, .run, .audit]) rfl
            ((moves_repairReceipt _ _ _).bind fun _ => Moves.pure _)
      | _ => exact .same

/-! ## Commands -/

/-- The kinds of writes of everything but a claim that dispatches. -/
abbrev ordinaryKinds : List Kind :=
  [.domain, .succeed, .start, .run, .audit, .action, .prepare, .review, .receipt, .policy,
    .config, .knowledge]

/-- The operational tables of a store. -/
structure OperationalTables where
  modes : Registry ModeRow.workspaceId
  holds : List HoldRow
  incidents : List IncidentRow
  operationalAudit : List OperationalAuditRow
  releaseAudit : List ReleaseAuditRow

def RuntimeStore.operated (s : RuntimeStore) (o : OperationalTables) : RuntimeStore :=
  { s with
    modes := o.modes
    holds := o.holds
    incidents := o.incidents
    operationalAudit := o.operationalAudit
    releaseAudit := o.releaseAudit }

/-- A change of the operational tables that takes no hold and no incident away. -/
structure Operated (s s' : RuntimeStore) : Prop where
  tables : ∃ o, s' = s.operated o
  holds : s.holds <+: s'.holds
  incidents : s.incidents <+: s'.incidents

theorem Operated.refl (s : RuntimeStore) : Operated s s :=
  ⟨⟨⟨s.modes, s.holds, s.incidents, s.operationalAudit, s.releaseAudit⟩, rfl⟩, List.prefix_rfl,
    List.prefix_rfl⟩

theorem Operated.trans {s t u : RuntimeStore} (h : Operated s t) (h' : Operated t u) :
    Operated s u := by
  obtain ⟨⟨o, rfl⟩, holds, incidents⟩ := h
  obtain ⟨⟨o', rfl⟩, holds', incidents'⟩ := h'
  exact ⟨⟨o', rfl⟩, holds.trans holds', incidents.trans incidents'⟩

/-- Any number of operational changes. -/
def operations : Guarantee RuntimeStore := .onStore Operated .refl .trans

theorem moves_operate {f : RuntimeStore → RuntimeStore} (h : ∀ s, Operated s (f s)) :
    Moves operations (modifyStore f : RuntimeTxn Unit) :=
  Moves.modifyStore fun w => h w.store

theorem operated_setMode (s : RuntimeStore) (workspaceId : WorkspaceId) (mode : OperationalMode) :
    Operated s (s.setMode workspaceId mode) :=
  ⟨⟨⟨_, s.holds, s.incidents, s.operationalAudit, s.releaseAudit⟩, rfl⟩, List.prefix_rfl,
    List.prefix_rfl⟩

theorem operated_switchMode (s : RuntimeStore) (workspaceId : WorkspaceId)
    (mode : OperationalMode) (row : OperationalAuditRow) :
    Operated s (s.switchMode workspaceId mode row) :=
  ⟨⟨⟨_, s.holds, s.incidents, _, s.releaseAudit⟩, rfl⟩, List.prefix_rfl, List.prefix_rfl⟩

theorem operated_hold (s : RuntimeStore) (workspaceId : WorkspaceId) (intentId : ActionIntentId)
    (generation : Nat) : Operated s (s.hold workspaceId intentId generation) := by
  unfold RuntimeStore.hold
  split
  · exact .refl s
  · exact ⟨⟨⟨s.modes, _, s.incidents, s.operationalAudit, s.releaseAudit⟩, rfl⟩,
      List.prefix_append _ _, List.prefix_rfl⟩

theorem moves_restrict (workspaceId : WorkspaceId) (mode : OperationalMode) (principal : PyStr)
    (at' : Instant) : Moves operations (restrict workspaceId mode principal at') :=
  (Moves.raiseIf _ _).bind fun _ => Moves.atomic ((reads_operationalMode _).moves.bind fun _ =>
    (Moves.raiseIf _ _).bind fun _ => moves_operate fun s => operated_switchMode s _ _ _)

theorem reads_classified (request : ReleaseRequest) : Reads (classified request) := by
  unfold classified
  split
  · exact Reads.pure _
  · exact Reads.pure _
  · exact Reads.raise _

theorem reads_releaseReason (request : ReleaseRequest) (previous : OperationalMode)
    (context : Option IncidentRow) : Reads (releaseReason request previous context) := by
  unfold releaseReason
  repeat' split
  · exact Reads.pure _
  · exact Reads.pure _
  · exact Reads.pure _
  · exact Reads.pure _
  · exact (reads_classified request).bind fun _ => (reads_getWorkspace _).bind fun _ =>
      Reads.getStore.bind fun _ => Reads.pure _

theorem moves_release (request : ReleaseRequest) : Moves operations (release request) := by
  refine Moves.atomic ((reads_operationalMode _).moves.bind fun _ => Moves.getStore.bind fun _ =>
    (reads_releaseReason _ _ _).moves.bind fun _ => ?_)
  refine (Moves.runIf fun _ => moves_operate fun s => operated_setMode s _ _).bind fun _ =>
    Moves.bind ?_ fun _ => Moves.pure _
  exact moves_operate fun s =>
    ⟨⟨⟨s.modes, s.holds, s.incidents, s.operationalAudit, _⟩, rfl⟩, List.prefix_rfl,
      List.prefix_rfl⟩

theorem moves_restore (request : RestoreRequest) : Moves operations (restore request) := by
  refine Moves.atomic (Moves.getStore.bind fun _ => (Moves.raiseIf _ _).bind fun _ =>
    (Moves.raiseIf _ _).bind fun _ => Moves.bind ?_ fun _ =>
    (reads_governedActions _).moves.bind fun _ =>
    (Moves.forEach fun record _ => moves_operate fun s => operated_hold s _ _ _).bind fun _ =>
    (reads_operationalMode _).moves.bind fun _ =>
    moves_operate fun s => operated_switchMode s _ _ _)
  exact moves_operate fun s =>
    ⟨⟨⟨s.modes, s.holds, _, s.operationalAudit, s.releaseAudit⟩, rfl⟩, List.prefix_rfl,
      List.prefix_append _ _⟩

/-- The kinds of writes that the transaction of a command makes in the store. -/
def HostCommand.kinds : HostCommand → List Kind
  | .domain command => [commandKind command]
  | .publishDefinition _ | .publishTool _ | .setToolEnabled .. => [.config]
  | .createGraph .. | .publishGraph .. | .activateGraph .. => [.config]
  | .publishApprovalPolicy _ => [.policy]
  | .startRun .. => [.start, .audit]
  | .resumeRun .. | .cancelRun .. | .yieldForHandoff .. => [.domain, .run, .audit]
  | .publishSource .. | .publishSourceVersion .. | .disableSource .. => [.knowledge]
  | .retrieveKnowledge .. => [.knowledge, .run, .audit]
  | .retrieveMemory .. => [.run, .audit]
  | .decide .. | .cancelIntent .. | .expireIntent .. => [.review, .audit]
  | .restrict .. | .release .. => []

/-- A command that writes its kinds moves by them, whatever it is called. -/
theorem HostCommand.moves_of {command : HostCommand} {K : List Kind} (kinds : command.kinds = K)
    {m : RuntimeTxn Unit} (hm : Moves (writes K) m) : Moves (writes command.kinds) m :=
  kinds ▸ hm

/-- Whether a command changes the operational tables. -/
def HostCommand.operational : HostCommand → Bool
  | .restrict .. | .release _ => true
  | _ => false

/-- Any other command writes its kinds. -/
theorem command_writes (platform : Platform) (command : HostCommand)
    (ordinary : command.operational = false) :
    Moves (writes command.kinds) (command.txn platform) := by
  cases command with
  | restrict workspaceId mode principal at' => cases ordinary
  | release request => cases ordinary
  | domain command =>
      exact HostCommand.moves_of (K := [commandKind command]) rfl
        (moves_inDomain List.mem_cons_self (moves_served platform.toEnv command))
  | publishDefinition definition =>
      exact HostCommand.moves_of (K := [.config]) rfl (moves_publishDefinition definition)
  | publishTool version =>
      exact HostCommand.moves_of (K := [.config]) rfl (moves_publishTool version)
  | setToolEnabled workspaceId toolId enabled =>
      exact HostCommand.moves_of (K := [.config]) rfl (moves_setToolEnabled _ _ _)
  | publishApprovalPolicy policy =>
      exact HostCommand.moves_of (K := [.policy]) rfl (moves_publishApprovalPolicy policy)
  | createGraph workspaceId name =>
      exact HostCommand.moves_of (K := [.config]) rfl (moves_createGraph _ _ _).discard
  | publishGraph draft expected =>
      exact HostCommand.moves_of (K := [.config]) rfl (moves_publishGraph _ _ _).discard
  | activateGraph workspaceId version expected =>
      exact HostCommand.moves_of (K := [.config]) rfl (moves_activateGraph _ _ _ _).discard
  | startRun host command =>
      exact HostCommand.moves_of (K := [.start, .audit]) rfl (moves_startRun _ _ _).discard
  | resumeRun workspaceId runId expected context =>
      exact HostCommand.moves_of (K := [.domain, .run, .audit]) rfl
        (moves_resumeRun _ _ _ _ _).discard
  | cancelRun workspaceId runId expected =>
      exact HostCommand.moves_of (K := [.domain, .run, .audit]) rfl
        (moves_cancelRun _ _ _ _).discard
  | yieldForHandoff workspaceId runId expected =>
      exact HostCommand.moves_of (K := [.domain, .run, .audit]) rfl
        (moves_yieldForHandoff _ _ _ _).discard
  | publishSource limits command =>
      exact HostCommand.moves_of (K := [.knowledge]) rfl (moves_publishSource _ _ _).discard
  | publishSourceVersion limits workspaceId sourceId expected normalized =>
      exact HostCommand.moves_of (K := [.knowledge]) rfl
        (moves_publishSourceVersion _ _ _ _ _ _).discard
  | disableSource workspaceId sourceId expected =>
      exact HostCommand.moves_of (K := [.knowledge]) rfl (moves_disableSource _ _ _ _).discard
  | retrieveKnowledge retriever workspaceId runId expected query =>
      exact HostCommand.moves_of (K := [.knowledge, .run, .audit]) rfl
        (moves_retrieveKnowledge _ _ _ _ _ _).discard
  | retrieveMemory answer workspaceId runId expected =>
      exact HostCommand.moves_of (K := [.run, .audit]) rfl (moves_retrieveMemory _ _ _ _ _)
  | decide workspaceId intentId digest reviewer kind reason =>
      exact HostCommand.moves_of (K := [.review, .audit]) rfl (moves_decide _ _ _ _ _ _ _).discard
  | cancelIntent workspaceId intentId =>
      exact HostCommand.moves_of (K := [.review, .audit]) rfl (moves_cancelIntent _ _ _).discard
  | expireIntent workspaceId intentId =>
      exact HostCommand.moves_of (K := [.review, .audit]) rfl (moves_expire _ _ _).discard

theorem command_operates (platform : Platform) (command : HostCommand)
    (operational : command.operational = true) : Moves operations (command.txn platform) := by
  cases command with
  | restrict workspaceId mode principal at' => exact moves_restrict _ _ _ _
  | release request => exact (moves_release request).discard
  | _ => cases operational

/-! ## Steps of the system -/

/-- What one step of the system does to the store. -/
inductive Effect (platform : Platform) (w w' : World RuntimeStore) : Prop
  | wrote (later : w.Later w')
      (moved : Relation.ReflTransGen (Write ordinaryKinds) w.store w'.store)
  | dispatched (later : w.Later w') (host : Host) (runId : AgentRunId) (expected : Version)
      (d : Dispatch) (governed : Option GovernedAction) (v : World RuntimeStore)
      (facts : Dispatched platform host runId expected w v w' d governed)
  | operated (later : w.Later w') (change : Operated w.store w'.store)

theorem widen {K K' : List Kind} (h : ∀ k ∈ K, k ∈ K') {s s' : RuntimeStore}
    (moved : Relation.ReflTransGen (Write K) s s') : Relation.ReflTransGen (Write K') s s' :=
  Relation.ReflTransGen.mono (fun _ _ => Write.mono h) _ _ moved

theorem Point.kinds_ordinary (point : Point) : ∀ k ∈ point.kinds, k ∈ ordinaryKinds := by
  cases point <;> simp [Point.kinds]

theorem HostCommand.kinds_ordinary (command : HostCommand) :
    ∀ k ∈ command.kinds, k ∈ ordinaryKinds := by
  cases command with
  | domain command => cases command <;> simp [HostCommand.kinds, commandKind]
  | _ => simp [HostCommand.kinds]

theorem CallEffect.effect {platform : Platform} {call : Call} {w w' : World RuntimeStore}
    (h : CallEffect platform call w w') : Effect platform w w' := by
  cases h with
  | wrote later moved => exact .wrote later (widen call.point.kinds_ordinary moved)
  | dispatched workspaceId runId action expected point later d governed v same facts =>
      exact .dispatched later call.host runId expected d governed v facts

theorem step_effect (platform : Platform) (s : Sys) (label : Label) :
    Effect platform s.shared.world (Sys.step platform s label).shared.world := by
  have idle : Effect platform s.shared.world s.shared.world := .wrote (.refl _) .refl
  cases label with
  | «open» host request => exact idle
  | advance id input =>
      refine Sys.advance_cases (fun t => Effect platform s.shared.world t.shared.world) platform s
        id input (fun call found => ?_) idle
      exact (advance_effect platform s.shared _ input).effect
  | drop id => exact idle
  | crash => exact idle
  | command command =>
      cases kind : command.operational with
      | false =>
          have moved := command_writes platform command kind s.shared.world
          exact .wrote moved.1 (widen command.kinds_ordinary moved.2)
      | true =>
          have moved := command_operates platform command kind s.shared.world
          exact .operated moved.1 moved.2
  | restore request =>
      have moved := moves_restore request s.shared.world
      show Effect platform _ (s.restored request).shared.world
      unfold Sys.restored
      cases h : Runtime.restore request s.shared.world with
      | ok u w =>
          rw [h] at moved
          exact .operated moved.1 moved.2
      | error e w => exact idle

/-- The kinds of all writes. -/
abbrev allKinds : List Kind := .invocation :: .claim :: ordinaryKinds

/-- A step of a call is a run of writes, also when it dispatches. -/
theorem advance_writes (platform : Platform) (shared : Shared) (call : Call) (input : Input) :
    Relation.ReflTransGen (Write allKinds) shared.world.store
      (shared.advance platform call input).shared.world.store := by
  cases advance_effect platform shared call input with
  | wrote later moved =>
      exact widen (fun k mem => List.mem_cons_of_mem _ (List.mem_cons_of_mem _
        (call.point.kinds_ordinary k mem))) moved
  | dispatched workspaceId runId action expected at' later d governed v same facts =>
      obtain ⟨id, host, point, frames⟩ := call
      obtain rfl : point = .invoke workspaceId runId action expected := at'
      cases input with
      | next =>
          exact widen (by simp) (moves_invokeClaim (K := claimKinds) platform host workspaceId runId
            action expected shared.world).2
      | _ => exact .refl

/-- What one step of the system does to the store, seen as single writes. -/
theorem step_writes (platform : Platform) (s : Sys) (label : Label) :
    Relation.ReflTransGen (Write allKinds) s.store (s.step platform label).store ∨
      Operated s.store (s.step platform label).store := by
  cases label with
  | advance id input =>
      refine .inl ?_
      refine Sys.advance_cases (fun t => Relation.ReflTransGen (Write allKinds) s.store t.store)
        platform s id input (fun call found => ?_) .refl
      exact advance_writes platform s.shared _ input
  | «open» | drop | crash => exact .inl .refl
  | command command =>
      cases kind : command.operational with
      | false =>
          exact .inl (widen (fun k mem => List.mem_cons_of_mem _ (List.mem_cons_of_mem _
            (command.kinds_ordinary k mem)))
            (command_writes platform command kind s.shared.world).2)
      | true => exact .inr (command_operates platform command kind s.shared.world).2
  | restore request =>
      refine .inr ?_
      have moved := moves_restore request s.shared.world
      show Operated s.store (s.restored request).store
      unfold Sys.restored
      cases h : Runtime.restore request s.shared.world with
      | ok u w =>
          rw [h] at moved
          exact moved.2
      | error e w => exact .refl _

/-! ## What every step keeps -/

section Kept

variable {platform : Platform} {K : List Kind}

/-- No write takes an entity of the domain away. -/
theorem Write.extends {s s' : RuntimeStore} (write : Write K s s') :
    Extends s.domain s'.domain := by
  cases write with
  | domain command allowed _ d served =>
      obtain ⟨call, accepted, -⟩ := served
      exact accepted.extends
  | _ => exact .refl s.domain

theorem writes_extend {s s' : RuntimeStore} (moved : Relation.ReflTransGen (Write K) s s') :
    Extends s.domain s'.domain :=
  writes_induct (P := fun t => Extends s.domain t.domain) (fun write h => h.trans write.extends)
    moved (.refl s.domain)

variable {host : Host} {runId : AgentRunId} {expected : Version} {w v w' : World RuntimeStore}
  {d : Dispatch} {governed : Option GovernedAction}

/-- A claim that dispatches leaves the domain as the authorization left it. -/
theorem Dispatched.domain_eq
    (facts : Dispatched platform host runId expected w v w' d governed) :
    w'.store.domain = w.store.domain := by
  have review : v.store.domain = w.store.domain :=
    writes_frame (fun write => write.domain_eq (by simp) (by simp)) facts.review
  obtain ⟨t, g, r, i, a, same⟩ := facts.claimed.rest
  rw [← review, same]
  rfl

/-- A claim that dispatches leaves the operational tables as they were. -/
theorem Dispatched.operational_eq
    (facts : Dispatched platform host runId expected w v w' d governed) :
    w'.store.modes = w.store.modes ∧ w'.store.holds = w.store.holds ∧
      w'.store.incidents = w.store.incidents := by
  have modes : v.store.modes = w.store.modes :=
    writes_frame (fun write => write.operational_eq.1) facts.review
  have holds : v.store.holds = w.store.holds :=
    writes_frame (fun write => write.operational_eq.2.1) facts.review
  have incidents : v.store.incidents = w.store.incidents :=
    writes_frame (fun write => write.operational_eq.2.2) facts.review
  obtain ⟨t, g, r, i, a, same⟩ := facts.claimed.rest
  rw [same, ← modes, ← holds, ← incidents]
  exact ⟨rfl, rfl, rfl⟩

/-- No step of the system takes an entity of the domain away. -/
theorem Effect.extends (h : Effect platform w w') : Extends w.store.domain w'.store.domain := by
  cases h with
  | wrote later moved => exact writes_extend moved
  | dispatched later host runId expected d governed v facts =>
      rw [facts.domain_eq]
      exact .refl _
  | operated later change =>
      obtain ⟨o, same⟩ := change.tables
      rw [same]
      exact .refl _

/-- No step of the system takes a hold or an incident away. -/
theorem Effect.operational_prefix (h : Effect platform w w') :
    w.store.holds <+: w'.store.holds ∧ w.store.incidents <+: w'.store.incidents := by
  cases h with
  | wrote later moved =>
      have holds : w'.store.holds = w.store.holds :=
        writes_frame (fun write => write.operational_eq.2.1) moved
      have incidents : w'.store.incidents = w.store.incidents :=
        writes_frame (fun write => write.operational_eq.2.2) moved
      exact ⟨holds ▸ List.prefix_rfl, incidents ▸ List.prefix_rfl⟩
  | dispatched later host runId expected d governed v facts =>
      obtain ⟨-, holds, incidents⟩ := facts.operational_eq
      exact ⟨holds ▸ List.prefix_rfl, incidents ▸ List.prefix_rfl⟩
  | operated later change => exact ⟨change.holds, change.incidents⟩

end Kept

end AgentCompanyOS.Runtime
