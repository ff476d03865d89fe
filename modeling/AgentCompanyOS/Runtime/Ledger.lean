import AgentCompanyOS.Runtime.Traces

/-!
# The ledger and the calls that write it

The fixture executor writes a row under a key that is computed from the call, and it writes
it only once. So every row is that of a claimed call, a reply that an executor gives is the
reply of a row, and what a lookup finds stays in the ledger.
-/

set_option autoImplicit false

namespace AgentCompanyOS.Runtime

open Foundation Foundation.Txn Domain

variable {platform : Platform}

/-! ## Rows -/

/-- The key of a call does not depend on its end. -/
theorem executionKey_congr {i j : ToolInvocation} (same : i.claimFields = j.claimFields) :
    executionKey platform i = executionKey platform j := by
  have text : ∀ k : ToolInvocation, executionKey platform k = platform.hexdigest
      (Json.dumps (.compact true) (.arr [.str k.claimFields.workspaceId.value,
        .str (py "intent:" ++ k.claimFields.actionId.value), .str k.claimFields.id.value,
        .str k.claimFields.toolVersion.definition.id.value,
        .int k.claimFields.toolVersion.version.value])) := fun _ => rfl
  rw [text, text, same]

/-- A row says that its message was delivered, with the output, or that it was rejected. -/
inductive LedgerRow.Settled (row : LedgerRow) : Prop
  | delivered (status : row.status = .processedSuccess) (text : PyStr)
      (output : row.outputJson = some text)
  | rejected (status : row.status = .processedFailure) (output : row.outputJson = none)

/-- The row that the executor keeps for the call `i`. -/
structure RowOf (platform : Platform) (i : ToolInvocation) (row : LedgerRow) : Prop where
  message : i.validatedInput.isFixtureMessage = true
  key : executionKey platform i = .ok row.idempotencyKey
  settled : row.Settled

theorem newLedgerRow_settled (reject : Bool) (key digest destination message : PyStr) :
    (newLedgerRow reject key digest destination message).Settled := by
  cases reject with
  | true => exact .rejected rfl rfl
  | false => exact .delivered rfl _ rfl

/-- What an execution does to the ledger: it is left alone, or it gains the row of the call. -/
inductive LedgerWrite (platform : Platform) (i : ToolInvocation) (ledger : Ledger) :
    Ledger → Prop
  | same : LedgerWrite platform i ledger ledger
  | row (row : LedgerRow) (written : RowOf platform i row)
      (absent : ledger.get? row.idempotencyKey = none) :
      LedgerWrite platform i ledger (ledger.put row)

/-- An execution writes at most the row of the call, and a text that it answers with is the
reply of that row. -/
theorem executeFixture_writes (platform : Platform) (reject : Bool) (i : ToolInvocation) (ledger : Ledger) :
    LedgerWrite platform i ledger (executeFixture platform reject i ledger).1 ∧
      ∀ raw, (executeFixture platform reject i ledger).2 = .ok raw → ∃ key row,
        executionKey platform i = .ok key ∧
        (executeFixture platform reject i ledger).1.get? key = some row ∧
        row.reply = .ok raw := by
  unfold executeFixture
  cases input : i.validatedInput with
  | fixtureMessage destination message =>
      dsimp only
      split
      · next key digest keyed hashed =>
          unfold dispatchFixture
          split
          · next absent =>
              have isMessage : i.validatedInput.isFixtureMessage = true := by rw [input]; rfl
              refine ⟨.row _ ⟨isMessage, keyed, newLedgerRow_settled _ _ _ _ _⟩ absent, ?_⟩
              intro raw reply
              exact ⟨key, _, keyed, Registry.get?_put_self _ _, reply⟩
          · next old stored =>
              split
              · exact ⟨.same, fun raw reply => by cases reply⟩
              · exact ⟨.same, fun raw reply => ⟨key, old, keyed, stored, reply⟩⟩
      · exact ⟨.same, fun raw reply => by cases reply⟩
      · exact ⟨.same, fun raw reply => by cases reply⟩
  | _ => exact ⟨.same, fun raw reply => by cases reply⟩

/-- Rows are never changed. -/
theorem LedgerWrite.evolves {i : ToolInvocation} {ledger ledger' : Ledger}
    (write : LedgerWrite platform i ledger ledger') : ledger.Evolves Eq ledger' := by
  cases write with
  | same => exact .refl (R := Eq) (fun _ => rfl) _
  | row row written absent => exact .put_new (fun _ => rfl) absent

/-- A text that a settled row answers with is its output. -/
theorem LedgerRow.Settled.reply {row : LedgerRow} (settled : row.Settled) {raw : PyStr}
    (h : row.reply = .ok raw) : row.status = .processedSuccess ∧ row.outputJson = some raw := by
  unfold LedgerRow.reply at h
  cases settled with
  | delivered status text output =>
      rw [if_neg (by rw [status]; decide), output] at h
      cases h
      exact ⟨status, output⟩
  | rejected status output =>
      rw [if_pos status] at h
      cases h

/-! ## Calls that reconcile -/

/-- A call of `reconcile` stands here. -/
def Point.reconciling : Point → Bool
  | .recoverOpen .. | .lookUp .. | .recoverApply .. | .repair .. => true
  | _ => false

/-- The call that a point of `reconcile` is about. -/
def Point.reconciled? : Point → Option ToolInvocationId
  | .recoverOpen _ _ invocationId _ => some invocationId
  | .lookUp _ _ invocationId _ _ => some invocationId
  | .recoverApply _ _ invocationId _ _ => some invocationId
  | .repair receipt => some receipt.invocation.id
  | _ => none

section Reconciling

variable {shared : Shared} {call : Call}

theorem Loop.handle_ordinary (loop : Loop) (e : Exc) : (loop.handle e).reconciling = false :=
  Loop.handle_leads (P := fun p => p.reconciling = false) (fun _ _ _ _ => rfl) loop e

theorem Loop.advance_ordinary (loop : Loop) : loop.advance.reconciling = false :=
  Loop.advance_leads (P := fun p => p.reconciling = false) (fun _ => rfl) (fun _ _ _ _ => rfl)
    loop

theorem resumeFrames_ordinary {frames : List Frame} {result : Except Exc AgentRun}
    {next : Point × List Frame} (h : resumeFrames frames result = some next) :
    next.1.reconciling = false :=
  resumeFrames_leads (P := fun p => p.reconciling = false) (fun _ => rfl) (fun _ _ _ _ => rfl)
    (fun _ _ _ _ _ => rfl) (fun _ _ _ => rfl) h

/-- A model reply leads to no `reconcile`. -/
theorem decide_ordinary {host : Host} {loop : Loop} {iteration : ClaimedIteration}
    {frames : List Frame} {reply : Except Exc PyStr} {answers : PortAnswers}
    {next : Point × List Frame}
    (h : (shared.decide platform host loop iteration frames reply answers).next = some next) :
    next.1.reconciling = false := by
  unfold Shared.decide at h
  split at h
  · cases h
    exact loop.handle_ordinary _
  · split at h
    · cases h
      exact loop.handle_ordinary _
    · split at h
      · replace h : afterToolAction loop frames _ = some next := h
        unfold afterToolAction at h
        split at h
        · cases h
          rfl
        · cases h
          exact loop.handle_ordinary _
      · replace h : afterAction loop frames _ = some next := h
        unfold afterAction at h
        split at h
        · exact resumeFrames_ordinary h
        · cases h
          exact loop.handle_ordinary _

/-- Where a transaction of `reconcile` leads is a point of `reconcile`. -/
theorem recoveryNext_reconciling {workspaceId : WorkspaceId} {runId : AgentRunId}
    {invocationId : ToolInvocationId} {connector : Connector} {frames : List Frame}
    {r : Except Exc RecoveryStep} {next : Point × List Frame}
    (h : recoveryNext workspaceId runId invocationId connector frames r = some next) :
    next.1.reconciling = true := by
  unfold recoveryNext at h
  split at h
  · cases h
    rfl
  · cases h
    rfl
  · cases h
  · cases h

/-- A call of `reconcile` stays one to its end, and no other call becomes one. -/
theorem advance_reconciling (input : Input) {next : Point × List Frame}
    (h : (shared.advance platform call input).next = some next) :
    next.1.reconciling = call.point.reconciling := by
  obtain ⟨id, host, point, frames⟩ := call
  have stay : some (point, frames) = some next → next.1.reconciling = point.reconciling := by
    rintro ⟨⟩
    rfl
  cases point with
  | driveEntry workspaceId runId expected =>
      cases input with
      | next =>
          replace h : afterEntry workspaceId runId frames _ = some next := h
          unfold afterEntry at h
          split at h
          · cases h
            exact Loop.advance_ordinary _
          · exact resumeFrames_ordinary h
      | _ => exact stay h
  | claim loop =>
      cases input with
      | ports answers =>
          replace h : afterClaim loop frames _ = some next := h
          unfold afterClaim at h
          split at h
          · cases h
            rfl
          · cases h
            exact loop.handle_ordinary _
      | _ => exact stay h
  | model loop iteration =>
      cases input with
      | model reply answers =>
          exact decide_ordinary h
      | _ => exact stay h
  | failing workspaceId runId code cancelled =>
      cases input with
      | next =>
          replace h : resumeFrames frames _ = some next := h
          exact resumeFrames_ordinary h
      | _ => exact stay h
  | invoke workspaceId runId action expected =>
      cases input with
      | next =>
          replace h : afterInvoke frames _ = some next := h
          unfold afterInvoke at h
          split at h
          · exact resumeFrames_ordinary h
          · cases h
            rfl
          · exact resumeFrames_ordinary h
      | _ => exact stay h
  | entering d =>
      cases input with
      | next | interrupt e =>
          cases h
          rfl
      | _ => exact stay h
  | executing d =>
      replace h : (shared.execute platform d frames input).next = some next := h
      unfold Shared.execute at h
      split at h <;> cases h <;> rfl
  | replied d reply =>
      cases input with
      | next =>
          replace h : afterReply d reply frames _ = some next := h
          unfold afterReply at h
          split at h
          · exact resumeFrames_ordinary h
          · cases h
            rfl
      | interrupt e =>
          cases h
          rfl
      | _ => exact stay h
  | again d error =>
      cases input with
      | next =>
          replace h : afterRaise error frames _ = some next := h
          unfold afterRaise at h
          split at h <;> exact resumeFrames_ordinary h
      | _ => exact stay h
  | resumeExpire workspaceId runId intentId expected =>
      cases input with
      | next =>
          replace h : (ite _ _ _ : Advance).next = some next := h
          split at h
          · replace h : resumeFrames frames _ = some next := h
            exact resumeFrames_ordinary h
          · replace h : afterExpire workspaceId runId intentId expected frames _ = some next := h
            unfold afterExpire at h
            split at h
            · cases h
              rfl
            · exact resumeFrames_ordinary h
      | _ => exact stay h
  | resumeOpen workspaceId runId intentId expected =>
      cases input with
      | next =>
          replace h : afterResume workspaceId runId intentId frames _ = some next := h
          unfold afterResume at h
          split at h
          · cases h
            rfl
          · exact resumeFrames_ordinary h
          · exact resumeFrames_ordinary h
      | _ => exact stay h
  | restoreWait workspaceId runId intentId resumed error =>
      cases input with
      | next =>
          replace h : afterRaise error frames _ = some next := h
          unfold afterRaise at h
          split at h <;> exact resumeFrames_ordinary h
      | _ => exact stay h
  | recoverOpen workspaceId runId invocationId connector =>
      cases input with
      | next => exact recoveryNext_reconciling h
      | _ => exact stay h
  | lookUp workspaceId runId invocationId invocation connector =>
      cases input with
      | next =>
          replace h : (shared.lookUp platform ⟨id, host, _, frames⟩ workspaceId runId invocationId
            invocation connector).next = some next := h
          unfold Shared.lookUp at h
          split at h
          · cases h
            rfl
          · cases h
      | _ => exact stay h
  | recoverApply workspaceId runId invocationId invocation lookup =>
      cases input with
      | next => exact recoveryNext_reconciling h
      | _ => exact stay h
  | repair receipt =>
      cases input with
      | next => cases h
      | _ => exact stay h

end Reconciling

/-! ## What a step does to the ledger and the log -/

section Steps

variable {shared : Shared} {call : Call}

/-- Only the execution of a dispatched call writes the ledger. -/
theorem advance_ledger (platform : Platform) (shared : Shared) (call : Call) (input : Input) :
    (shared.advance platform call input).shared.ledger = shared.ledger ∨
      ∃ d reject, call.point = .executing d ∧ d.executor = .recoverable reject ∧
        (shared.advance platform call input).shared.ledger =
          (executeFixture platform reject d.invocation shared.ledger).1 := by
  obtain ⟨id, host, point, frames⟩ := call
  cases point with
  | executing d =>
      obtain ⟨run, action, invocation, executor⟩ := d
      cases executor with
      | external =>
          left
          cases input <;> rfl
      | recoverable reject =>
          cases input with
          | next => exact .inr ⟨_, reject, rfl, rfl, rfl⟩
          | _ => exact .inl rfl
  | model loop iteration =>
      left
      cases input with
      | model reply answers =>
          show (shared.decide platform host loop iteration frames reply answers).shared.ledger = _
          unfold Shared.decide
          split
          · rfl
          · split
            · rfl
            · split <;> rfl
      | _ => rfl
  | resumeExpire workspaceId runId intentId expected =>
      left
      cases input with
      | next =>
          show (ite _ _ _ : Advance).shared.ledger = _
          split <;> rfl
      | _ => rfl
  | lookUp workspaceId runId invocationId invocation connector =>
      left
      cases input with
      | next =>
          show (shared.lookUp platform ⟨id, host, _, frames⟩ workspaceId runId invocationId
            invocation connector).shared.ledger = _
          unfold Shared.lookUp
          split <;> rfl
      | _ => rfl
  | _ => cases input <;> exact .inl rfl

/-- A step leaves the ledger alone, or writes the row of a call that is claimed. -/
theorem ledger_step (platform : Platform) (s : Sys) (label : Label) :
    (s.step platform label).shared.ledger = s.shared.ledger ∨
      ∃ id input call d reject, label = .advance id input ∧ s.call? id = some call ∧
        call.point = .executing d ∧ d.executor = .recoverable reject ∧
        (s.step platform label).shared.ledger =
          (executeFixture platform reject d.invocation s.shared.ledger).1 := by
  cases label with
  | advance id input =>
      cases found : s.call? id with
      | none => exact .inl (by rw [Sys.step_unknown found])
      | some call =>
          rw [Sys.step_advance found]
          rcases advance_ledger platform s.shared call input with same |
            ⟨d, reject, point, executor, after⟩
          · exact .inl same
          · exact .inr ⟨id, input, call, d, reject, rfl, found, point, executor, after⟩
  | restore request =>
      left
      show (s.restored request).shared.ledger = _
      unfold Sys.restored
      split <;> rfl
  | _ => exact .inl rfl

theorem ledger_evolves (platform : Platform) (s : Sys) (label : Label) :
    s.shared.ledger.Evolves Eq (s.step platform label).shared.ledger := by
  rcases ledger_step platform s label with same |
    ⟨_, _, _, d, reject, -, -, -, -, after⟩
  · rw [same]
    exact .refl (R := Eq) (fun _ => rfl) _
  · rw [after]
    exact (executeFixture_writes platform reject d.invocation s.shared.ledger).1.evolves

/-- The log only grows. -/
theorem log_step (platform : Platform) (s : Sys) (label : Label) :
    s.log <+: (s.step platform label).log := by
  cases label with
  | advance id input =>
      exact Sys.advance_cases (fun t => s.log <+: t.log) platform s id input
        (fun _ _ => List.prefix_append _ _) List.prefix_rfl
  | restore request =>
      show s.log <+: (s.restored request).log
      unfold Sys.restored
      split <;> exact List.prefix_rfl
  | _ => exact List.prefix_rfl

/-- A call that has a text from its executor has it already, or its executor answers now. -/
theorem replied_origin {input : Input} {d : Dispatch} {raw : PyStr} {frames : List Frame}
    (h : (shared.advance platform call input).next = some (.replied d (.ok raw), frames)) :
    (call.point = .replied d (.ok raw) ∧
        (shared.advance platform call input).shared.ledger = shared.ledger) ∨
      call.point = .executing d ∧ ∀ reject, d.executor = .recoverable reject →
        (shared.advance platform call input).shared.ledger =
            (executeFixture platform reject d.invocation shared.ledger).1 ∧
          (executeFixture platform reject d.invocation shared.ledger).2 = .ok raw := by
  have apart : call.point.dispatch? = some d := by
    cases advance_moved platform shared call input with
    | outside next entries => cases next _ h
    | within d' point before next after entering entries =>
        rw [next] at h
        cases h
        rw [before]
        exact after.symm
    | entered d' before same next entries =>
        rw [next] at h
        cases h
    | dispatched workspaceId runId action expected d' w before claim same next entries =>
        rw [next] at h
        cases h
  obtain ⟨id, host, point, frames'⟩ := call
  cases point with
  | entering d' =>
      cases input <;> cases h
  | executing d' =>
      obtain rfl : d' = d := Option.some.inj apart
      refine .inr ⟨rfl, fun reject executor => ?_⟩
      obtain ⟨run, action, invocation, _⟩ := d'
      obtain rfl : _ = Executor.recoverable reject := executor
      cases input with
      | next =>
          obtain ⟨reply, -⟩ := Prod.mk.inj (Option.some.inj h)
          exact ⟨rfl, (Point.replied.inj reply).2⟩
      | _ => cases h
  | replied d' reply =>
      cases input with
      | next =>
          replace h : afterReply d' reply frames' _ = some _ := h
          unfold afterReply at h
          split at h
          · cases resumeFrames_dispatch h
          · cases h
      | interrupt e => cases h
      | _ =>
          cases h
          exact .inl ⟨rfl, rfl⟩
  | again d' error =>
      cases input with
      | next =>
          replace h : afterRaise error frames' _ = some _ := h
          unfold afterRaise at h
          split at h <;> cases resumeFrames_dispatch h
      | _ => cases h
  | _ => cases apart

/-- A call that has an answer of the ledger has it already, or looks it up now. -/
theorem lookup_origin {input : Input} {workspaceId : WorkspaceId} {runId : AgentRunId}
    {invocationId : ToolInvocationId} {invocation : ToolInvocation} {lookup : RemoteLookup}
    {frames : List Frame} (h : (shared.advance platform call input).next =
      some (.recoverApply workspaceId runId invocationId invocation lookup, frames)) :
    call.point = .recoverApply workspaceId runId invocationId invocation lookup ∨
      ∃ key unknown, call.point = .lookUp workspaceId runId invocationId invocation
          (.fixture unknown) ∧ input = .next ∧ executionKey platform invocation = .ok key ∧
        lookup = lookupStatus unknown (shared.ledger.get? key) ∧
        (shared.advance platform call input).entries =
          [.looked call.id key (shared.ledger.get? key)] := by
  have here := advance_reconciling input h
  obtain ⟨id, host, point, frames'⟩ := call
  cases point with
  | recoverOpen workspaceId' runId' invocationId' connector =>
      cases input with
      | next =>
          replace h : recoveryNext workspaceId' runId' invocationId' connector frames' _ = _ := h
          unfold recoveryNext at h
          split at h <;> cases h
      | _ => cases h
  | lookUp workspaceId' runId' invocationId' invocation' connector =>
      cases input with
      | next =>
          replace h : (shared.lookUp platform ⟨id, host, _, frames'⟩ workspaceId' runId'
            invocationId' invocation' connector).next = _ := h
          show _ ∨ ∃ key unknown, _ ∧ _ ∧ _ ∧ _ ∧ (shared.lookUp platform ⟨id, host, _, frames'⟩
            workspaceId' runId' invocationId' invocation' connector).entries = _
          unfold Shared.lookUp at h ⊢
          split at h
          · next key unknown keyed =>
              cases h
              exact .inr ⟨key, unknown, rfl, rfl, keyed, rfl, rfl⟩
          · cases h
      | _ => cases h
  | recoverApply workspaceId' runId' invocationId' invocation' lookup' =>
      cases input with
      | next =>
          replace h : recoveryNext workspaceId' runId' invocationId' .withoutLookup frames' _ =
            _ := h
          unfold recoveryNext at h
          split at h <;> cases h
      | _ =>
          cases h
          exact .inl rfl
  | repair receipt => cases input <;> cases h
  | _ => cases here

end Steps

/-! ## What the calls in flight know -/

/-- The text is what the row of the call answers with. -/
def AnsweredBy (platform : Platform) (ledger : Ledger) (i : ToolInvocation) (raw : PyStr) : Prop :=
  ∃ key row, executionKey platform i = .ok key ∧ ledger.get? key = some row ∧ row.reply = .ok raw

/-- The lookup is an answer about the key of the call, and it is in the log. -/
structure LookedUp (platform : Platform) (s : Sys) (callId : Nat) (i : ToolInvocation)
    (lookup : RemoteLookup) (key : PyStr) (unknown : Bool) (row : Option LedgerRow) : Prop where
  keyed : executionKey platform i = .ok key
  answer : lookup = lookupStatus unknown row
  logged : Entry.looked callId key row ∈ s.log
  stays : ∀ found, row = some found → s.shared.ledger.get? key = some found

/-- What is known of a call at its point. -/
structure Informed (platform : Platform) (s : Sys) (call : Call) : Prop where
  /-- A dispatched call is claimed, and its executor is the one that its host has bound. -/
  carried : ∀ d, call.point.dispatch? = some d → d.invocation.claimFields ∈ s.store.claims ∧
    call.host.executor d.invocation.toolVersion.grant = some d.executor
  /-- A text from the fixture executor is that of the row. -/
  delivered : ∀ d raw reject, call.point = .replied d (.ok raw) →
    d.executor = .recoverable reject → AnsweredBy platform s.shared.ledger d.invocation raw
  /-- An answer about a call is that of the ledger. -/
  looked : ∀ workspaceId runId invocationId i lookup,
    call.point = .recoverApply workspaceId runId invocationId i lookup →
    ∃ key unknown row, LookedUp platform s call.id i lookup key unknown row

/-- What is known of the ledger and the calls in flight. -/
structure LedgerKnown (platform : Platform) (s : Sys) : Prop where
  numbered : s.Numbered
  calls : ∀ call ∈ s.calls, Informed platform s call
  /-- Every row is that of a claimed call. -/
  rows : ∀ row ∈ s.shared.ledger.values, ∃ i, i.claimFields ∈ s.store.claims ∧
    RowOf platform i row

section Knowledge

variable {s s' : Sys} {call : Call}

theorem AnsweredBy.later {ledger ledger' : Ledger} {i : ToolInvocation} {raw : PyStr}
    (rows : ledger.Evolves Eq ledger') (h : AnsweredBy platform ledger i raw) :
    AnsweredBy platform ledger' i raw := by
  obtain ⟨key, row, keyed, stored, reply⟩ := h
  obtain ⟨later, found, same⟩ := rows.later stored
  obtain rfl : row = later := same
  exact ⟨key, row, keyed, found, reply⟩

/-- What is known of a call stays known. -/
theorem Informed.later (claims : s.store.claims <+: s'.store.claims)
    (rows : s.shared.ledger.Evolves Eq s'.shared.ledger) (log : s.log <+: s'.log)
    (h : Informed platform s call) : Informed platform s' call where
  carried d at' := ⟨claims.subset (h.carried d at').1, (h.carried d at').2⟩
  delivered d raw reject at' executor := (h.delivered d raw reject at' executor).later rows
  looked workspaceId runId invocationId i lookup at' := by
    obtain ⟨key, unknown, row, known⟩ := h.looked workspaceId runId invocationId i lookup at'
    refine ⟨key, unknown, row, known.keyed, known.answer, log.subset known.logged, ?_⟩
    intro found same
    obtain ⟨later, stored, rfl⟩ := rows.later (known.stays found same)
    exact stored

theorem Informed.step (label : Label) (h : Informed platform s call) :
    Informed platform (s.step platform label) call :=
  h.later (claims_step platform s label) (ledger_evolves platform s label) (log_step platform s label)

/-- A call that enters the system has no dispatch and no answer. -/
theorem informed_enter (host : Host) (id : Nat) (request : Request) :
    Informed platform s ⟨id, host, request.enter.1, request.enter.2⟩ := by
  constructor <;> cases request <;> intros <;> contradiction

/-- What is known of a call after its step. -/
theorem informed_moved {input : Input} {next : Point × List Frame}
    (found : s.call? call.id = some call) (h : Informed platform s call)
    (moved : (s.shared.advance platform call input).next = some next) :
    Informed platform (s.step platform (.advance call.id input)) (call.moved next) := by
  have later := h.step (.advance call.id input)
  have after : s.step platform (.advance call.id input) =
    s.moved call (s.shared.advance platform call input) := Sys.step_advance found
  refine ⟨?_, ?_, ?_⟩
  · intro d at'
    replace at' : next.1.dispatch? = some d := at'
    show _ ∧ call.host.executor _ = _
    cases advance_moved platform s.shared call input with
    | outside outside entries =>
        rw [outside next moved] at at'
        cases at'
    | within d' point before within' after' entering entries =>
        rw [within'] at moved
        cases moved
        obtain rfl : d' = d := Option.some.inj (after'.symm.trans at')
        exact later.carried d' before
    | entered d' before same entered' entries =>
        rw [entered'] at moved
        cases moved
        obtain rfl : d' = d := Option.some.inj at'
        exact later.carried d' (by rw [before]; rfl)
    | dispatched workspaceId runId action expected d' w before claim same dispatched' entries =>
        rw [dispatched'] at moved
        cases moved
        obtain rfl : d' = d := Option.some.inj at'
        cases invokeClaim_eq_ok claim with
        | dispatched _ governed v sameAction facts =>
            refine ⟨?_, facts.executor⟩
            have grown : (s.step platform (.advance call.id input)).store.claims =
                s.store.claims ++ [d'.invocation.claimFields] := by
              rw [after]
              show (s.shared.advance platform call input).shared.world.store.claims = _
              rw [same]
              exact facts.claims_grown
            rw [grown]
            exact List.mem_append_right _ (List.mem_singleton_self _)
  · intro d raw reject at' executor
    obtain ⟨point, frames⟩ := next
    obtain rfl : point = .replied d (.ok raw) := at'
    rcases replied_origin moved with ⟨before, -⟩ | ⟨-, now⟩
    · exact later.delivered d raw reject before executor
    · obtain ⟨ledger, reply⟩ := now reject executor
      have answered := (executeFixture_writes platform reject d.invocation s.shared.ledger).2 raw reply
      show AnsweredBy platform (s.step platform (.advance call.id input)).shared.ledger _ _
      rw [after]
      show AnsweredBy platform (s.shared.advance platform call input).shared.ledger _ _
      rw [ledger]
      exact answered
  · intro workspaceId runId invocationId i lookup at'
    obtain ⟨point, frames⟩ := next
    obtain rfl : point = .recoverApply workspaceId runId invocationId i lookup := at'
    rcases lookup_origin moved with before | ⟨key, unknown, -, -, keyed, answer, entries⟩
    · exact later.looked workspaceId runId invocationId i lookup before
    · refine ⟨key, unknown, s.shared.ledger.get? key, keyed, answer, ?_, ?_⟩
      · rw [after]
        show _ ∈ s.log ++ (s.shared.advance platform call input).entries
        rw [entries]
        exact List.mem_append_right _ (List.mem_singleton_self _)
      · intro row stored
        obtain ⟨later, found, rfl⟩ := (ledger_evolves platform s (.advance call.id input)).later stored
        exact found

theorem LedgerKnown.empty : LedgerKnown platform .empty :=
  ⟨.empty, fun _ mem => (List.not_mem_nil mem).elim, fun _ mem => (List.not_mem_nil mem).elim⟩

theorem LedgerKnown.step (h : LedgerKnown platform s) (label : Label) :
    LedgerKnown platform (s.step platform label) := by
  refine ⟨h.numbered.step platform label, ?_, ?_⟩
  · intro call mem
    cases call_origin h.numbered label mem with
    | stayed present => exact (h.calls call present).step label
    | opened host request now new =>
        rw [new]
        exact informed_enter host s.issued request
    | moved moving input next now found leads new =>
        rw [now, new]
        exact informed_moved found (h.calls moving (Sys.call?_eq_some found).1) leads
  · have grown := claims_step platform s label
    intro row mem
    have earlier : row ∈ s.shared.ledger.values → ∃ i,
        i.claimFields ∈ (s.step platform label).store.claims ∧ RowOf platform i row := by
      intro present
      obtain ⟨i, claimed, written⟩ := h.rows row present
      exact ⟨i, grown.subset claimed, written⟩
    rcases ledger_step platform s label with same |
      ⟨id, input, moving, d, reject, -, found, point, -, after⟩
    · exact earlier (same ▸ mem)
    · have carried := ((h.calls moving (Sys.call?_eq_some found).1).carried d
        (by rw [point]; rfl)).1
      have write := (executeFixture_writes platform reject d.invocation
        s.shared.ledger).1
      rw [after] at mem
      generalize (executeFixture platform reject d.invocation s.shared.ledger).1 = ledger
        at write mem
      cases write with
      | same => exact earlier mem
      | row written of absent =>
          rcases Registry.mem_values_put.mp mem with rfl | ⟨present, -⟩
          · exact ⟨d.invocation, grown.subset carried, of⟩
          · exact earlier present

theorem ledgerKnown_after (platform : Platform) (labels : List Label) :
    LedgerKnown platform (Sys.after platform labels) :=
  Sys.run_keeps (P := LedgerKnown platform) (fun _ label h => h.step label) .empty labels

end Knowledge

end AgentCompanyOS.Runtime
