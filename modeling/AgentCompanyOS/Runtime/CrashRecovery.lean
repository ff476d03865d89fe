import AgentCompanyOS.Runtime.Repairs
import AgentCompanyOS.Runtime.Release

/-!
# Recovery after a crash

Calls of `reconcile` dispatch nothing, and once a stored receipt has been applied to its run
they change nothing. With the ledger and the answers this is what the recovery of a governed
write promises over every run, however often the process dies and whichever replies come late.
-/

set_option autoImplicit false

namespace AgentCompanyOS.Runtime

open Foundation Foundation.Txn Domain

variable {platform : Platform}

/-! ## Nothing is dispatched -/

section Dispatching

variable {shared : Shared} {call : Call} {s s' : RuntimeStore}

theorem Write.claims_eq {K : List Kind} (write : Write K s s') (noInvocation : .invocation ∉ K) :
    s'.claims = s.claims := by
  cases write with
  | invocation allowed => exact (noInvocation allowed).elim
  | receipt allowed _ previous receipt storable => exact claims_receipt storable
  | _ => rfl

theorem kinds_reconciling {point : Point} (h : point.reconciling = true) :
    .invocation ∉ point.kinds := by
  cases point with
  | recoverOpen | lookUp | recoverApply | repair => simp [Point.kinds]
  | _ => cases h

/-- Numbers of calls are only ever given away. -/
theorem issued_step (s : Sys) (label : Label) : s.issued ≤ (s.step platform label).issued := by
  cases label with
  | «open» host request => exact Nat.le_succ _
  | advance id input =>
      exact Sys.advance_cases (fun t => s.issued ≤ t.issued) platform s id input
        (fun _ _ => Nat.le_refl _) (Nat.le_refl _)
  | restore request =>
      show s.issued ≤ (s.restored request).issued
      unfold Sys.restored
      split <;> exact Nat.le_refl _
  | _ => exact Nat.le_refl _

theorem Sys.call?_of_mem {s : Sys} (numbered : s.Numbered) {call : Call} (mem : call ∈ s.calls) :
    s.call? call.id = some call := by
  cases found : s.call? call.id with
  | none => exact (List.find?_eq_none.mp found call mem (decide_eq_true rfl)).elim
  | some other =>
      obtain ⟨present, same⟩ := Sys.call?_eq_some found
      rw [List.inj_on_of_nodup_map numbered.distinct present mem same]

/-- Nothing enters an executor, is claimed or reaches the ledger. -/
structure Undispatched (s s' : Sys) : Prop where
  entered : s'.entered = s.entered
  claims : s'.store.claims = s.store.claims
  ledger : s'.shared.ledger = s.shared.ledger

/-- A step of `reconcile` dispatches nothing. -/
theorem reconcile_undispatched {s : Sys} {call : Call} (found : s.call? call.id = some call)
    (reconciling : call.point.reconciling = true) (input : Input) :
    Undispatched s (s.step platform (.advance call.id input)) := by
  rw [Sys.step_advance found]
  refine ⟨?_, ?_, ?_⟩
  · have quiet : ∀ i, Entry.entered i ∉ (s.shared.advance platform call input).entries := by
      intro i mem
      cases advance_logs platform s.shared call input with
      | nothing entries =>
          rw [entries] at mem
          cases mem
      | entry d at' entries =>
          rw [at'] at reconciling
          cases reconciling
      | lookup workspaceId runId invocationId i connector key now at' keyed entries =>
          rw [entries] at mem
          cases List.mem_singleton.mp mem
      | recovery m by' world entries =>
          rw [entries] at mem
          unfold recoveryEntries at mem
          split at mem
          · cases List.mem_singleton.mp mem
          · cases mem
    show (s.log ++ (s.shared.advance platform call input).entries).filterMap Entry.entered? = _
    rw [List.filterMap_append, entered?_of_not_mem quiet, List.append_nil]
    rfl
  · have effect := advance_effect platform s.shared call input
    show (s.shared.advance platform call input).shared.world.store.claims = _
    cases effect with
    | wrote later moved =>
        exact writes_frame (fun write => write.claims_eq (kinds_reconciling reconciling)) moved
    | dispatched workspaceId runId action expected at' later d governed v same facts =>
        rw [at'] at reconciling
        cases reconciling
  · rcases advance_ledger platform s.shared call input with same | ⟨d, reject, at', -⟩
    · exact same
    · rw [at'] at reconciling
      cases reconciling

/-- The first transaction of `reconcile` files no receipt. -/
theorem recoverOpen_stored {host : Host} {workspaceId : WorkspaceId} {runId : AgentRunId}
    {invocationId : ToolInvocationId} {connector : Connector} {receipt : ToolReceipt}
    {w w' : World RuntimeStore} (h : recoverOpen platform host workspaceId runId invocationId
      connector w = .ok (.stored receipt) w') : False := by
  obtain ⟨run, invocation, existing, -, -, -, h⟩ := findRecovery_found (atomic_eq_ok.mp h)
  obtain ⟨found, -, h⟩ := need_then h
  cases existing with
  | some existing =>
      obtain ⟨case, w₁, -, h⟩ := bind_eq_ok.mp h
      obtain ⟨same, -⟩ := pure_eq_ok.mp h
      cases same
  | none =>
      obtain ⟨_, w₁, -, h⟩ := bind_eq_ok.mp h
      cases connector <;> (obtain ⟨same, -⟩ := pure_eq_ok.mp h; cases same)

/-- The receipt of a lookup is for the call that was looked up. -/
theorem recoverApply_stored {host : Host} {workspaceId : WorkspaceId} {runId : AgentRunId}
    {invocationId : ToolInvocationId} {i : ToolInvocation} {lookup : RemoteLookup}
    {receipt : ToolReceipt} {w w' : World RuntimeStore}
    (h : recoverApply platform host workspaceId runId invocationId i lookup w =
      .ok (.stored receipt) w') : receipt.invocation.id = invocationId := by
  obtain ⟨run, current?, existing, -, listed, -, h⟩ := findRecovery_found (atomic_eq_ok.mp h)
  obtain ⟨current, found, h⟩ := need_then h
  rw [found] at listed
  cases existing with
  | some existing =>
      obtain ⟨case, w₁, -, h⟩ := bind_eq_ok.mp h
      obtain ⟨same, -⟩ := pure_eq_ok.mp h
      cases same
  | none =>
      obtain ⟨unchanged, h⟩ := raiseIf_then h
      obtain ⟨_, w₁, -, h⟩ := bind_eq_ok.mp h
      split at h
      · obtain ⟨same, -⟩ := pure_eq_ok.mp h
        cases same
      · obtain ⟨made, w₂, recorded, h⟩ := bind_eq_ok.mp h
        obtain ⟨same, -⟩ := pure_eq_ok.mp h
        cases same
        simp only [not_or, not_not] at unchanged
        obtain ⟨rfl, -⟩ := unchanged
        obtain ⟨-, claim, -⟩ := recoverReceipt_receipts recorded
        have same := congrArg InvocationFields.id claim
        replace same : receipt.invocation.id = current.id := same
        rw [same]
        simpa using List.find?_some listed

/-- A call of `reconcile` goes on about the same invocation. -/
theorem advance_reconciled {input : Input} {next : Point × List Frame}
    (h : (shared.advance platform call input).next = some next)
    (reconciling : call.point.reconciling = true) :
    next.1.reconciled? = call.point.reconciled? := by
  obtain ⟨id, host, point, frames⟩ := call
  have stay : some (point, frames) = some next → next.1.reconciled? = point.reconciled? := by
    rintro ⟨⟩
    rfl
  -- Where a transaction leads, when the receipt that it files is for the invocation.
  have leads : ∀ {workspaceId : WorkspaceId} {runId : AgentRunId}
      {invocationId : ToolInvocationId} {connector : Connector}
      {m : RuntimeTxn RecoveryStep},
      (∀ receipt w', m shared.world = .ok (.stored receipt) w' →
        receipt.invocation.id = invocationId) →
      recoveryNext workspaceId runId invocationId connector frames
        (World.answer (m shared.world)) = some next →
      next.1.reconciled? = some invocationId := by
    intro workspaceId runId invocationId connector m own led
    cases result : m shared.world with
    | error e w' =>
        rw [result] at led
        cases led
    | ok step w' =>
        rw [result] at led
        cases step with
        | lookUp i =>
            cases led
            rfl
        | stored receipt =>
            cases led
            exact congrArg some (own receipt w' result)
        | answered case => cases led
  cases point with
  | recoverOpen workspaceId runId invocationId connector =>
      cases input with
      | next => exact leads (fun receipt w' stored => (recoverOpen_stored stored).elim) h
      | _ => exact stay h
  | lookUp workspaceId runId invocationId invocation connector =>
      cases input with
      | next =>
          replace h : (shared.lookUp platform ⟨id, host, _, frames⟩ workspaceId runId invocationId
            invocation connector).next = some next := h
          unfold Shared.lookUp at h
          split at h
          · cases h
            rfl
          · cases h
      | _ => exact stay h
  | recoverApply workspaceId runId invocationId invocation lookup =>
      cases input with
      | next => exact leads (fun receipt w' stored => recoverApply_stored stored) h
      | _ => exact stay h
  | repair receipt =>
      cases input with
      | next => cases h
      | _ => exact stay h
  | _ => cases reconciling

theorem reconciling_of_about {point : Point} {invocationId : ToolInvocationId}
    (about : point.reconciled? = some invocationId) : point.reconciling = true := by
  cases point <;> first | rfl | cases about

/-- A call of `reconcile` stays one about its invocation. -/
theorem reconcile_stays (platform : Platform) (before rest : List Label) (host : Host)
    (workspaceId : WorkspaceId) (runId : AgentRunId) (invocationId : ToolInvocationId)
    (connector : Connector) {call : Call}
    (mem : call ∈ (Sys.after platform (before ++ .open host (.reconcile workspaceId runId
      invocationId connector) :: rest)).calls)
    (opened : call.id = (Sys.after platform before).issued) :
    call.point.reconciled? = some invocationId := by
  have start : Sys.after platform (before ++ .open host (.reconcile workspaceId runId
      invocationId connector) :: rest) = Sys.run platform ((Sys.after platform before).step platform
        (.open host (.reconcile workspaceId runId invocationId connector))) rest := by
    rw [Sys.after, Sys.run_append]
    rfl
  have numbered := (tickets_after platform before).1
  rw [start] at mem
  -- The call keeps its number, and no later call is given that number.
  refine (Sys.run_keeps (P := fun t => t.Numbered ∧ (Sys.after platform before).issued < t.issued ∧
    ∀ call ∈ t.calls, call.id = (Sys.after platform before).issued →
      call.point.reconciled? = some invocationId) ?_ ?_ rest).2.2 call mem opened
  · rintro t label ⟨numbered, issued, known⟩
    refine ⟨numbered.step platform label, Nat.lt_of_lt_of_le issued (issued_step t label), ?_⟩
    intro call mem same
    cases call_origin numbered label mem with
    | stayed present => exact known call present same
    | opened host request now new =>
        rw [new] at same
        replace same : t.issued = (Sys.after platform before).issued := same
        omega
    | moved moving input next now found leads new =>
        rw [new] at same ⊢
        have there := known moving (Sys.call?_eq_some found).1 same
        show next.1.reconciled? = some invocationId
        rw [advance_reconciled leads (reconciling_of_about there), there]
  · refine ⟨numbered.step platform _, Nat.lt_succ_self _, ?_⟩
    intro call mem same
    rcases List.mem_append.mp mem with old | new
    · have below := numbered.below call old
      omega
    · rw [List.mem_singleton.mp new]
      rfl

end Dispatching

/-! ## One row for an intent -/

section Rows

/-- The ledger has the row for the intent: it is kept under the key of a claimed call of the
intent's action. -/
structure RowFor (platform : Platform) (s : Sys) (intentId : ActionIntentId) (row : LedgerRow) :
    Prop where
  stored : row ∈ s.shared.ledger.values
  call : ∃ record i, s.store.governed.get? intentId = some record ∧ i.claimFields ∈ s.store.claims ∧
    i.actionId = record.intent.actionId ∧ executionKey platform i = .ok row.idempotencyKey

/-- Two claimed calls of one action are one call. -/
theorem Claims.one {s : RuntimeStore} (h : Claims platform s) {f g : InvocationFields}
    (hf : f ∈ s.claims) (hg : g ∈ s.claims) (same : f.actionId = g.actionId) : f = g :=
  List.inj_on_of_nodup_map h.actions hf hg same

theorem row_unique {labels : List Label} {intentId : ActionIntentId} {row row' : LedgerRow}
    (h : RowFor platform (Sys.after platform labels) intentId row)
    (h' : RowFor platform (Sys.after platform labels) intentId row') : row = row' := by
  obtain ⟨record, i, stored, claimed, action, key⟩ := h.call
  obtain ⟨record', i', stored', claimed', action', key'⟩ := h'.call
  obtain rfl := Option.some.inj (stored.symm.trans stored')
  have same : i.claimFields = i'.claimFields :=
    (Claims.after platform labels).one claimed claimed' (action.trans action'.symm)
  rw [executionKey_congr same, key'] at key
  have found := Registry.get?_of_mem_values h.stored
  have found' := Registry.get?_of_mem_values h'.stored
  rw [Except.ok.inj key] at found'
  exact Option.some.inj (found.symm.trans found')

theorem row_claimed {labels : List Label} {row : LedgerRow}
    (stored : row ∈ (Sys.after platform labels).shared.ledger.values) :
    ∃ intentId, RowFor platform (Sys.after platform labels) intentId row := by
  obtain ⟨i, claimed, written⟩ := (ledgerKnown_after platform labels).rows row stored
  obtain ⟨record, mem, by'⟩ := (Claims.after platform labels).invocations i.claimFields claimed
    (.inr written.message)
  exact ⟨record.intent.id, stored, record, i, Registry.get?_of_mem_values mem, claimed,
    by'.call.2.2.symm, written.key⟩

end Rows

/-! ## Main result -/

section Main

variable {r : ToolReceipt}

/-- The label is a step of a `reconcile` call about the invocation. -/
def Sys.Reconciles (s : Sys) (invocationId : ToolInvocationId) (label : Label) : Prop :=
  ∃ call input, label = .advance call.id input ∧ s.call? call.id = some call ∧
    call.point.reconciled? = some invocationId

/-- The step of a `reconcile` call, by a host with governance, that answers about a stored
receipt and leaves the run of the call waiting for it no longer. -/
structure RepairedBy (platform : Platform) (s : Sys) (label : Label) (r : ToolReceipt) : Prop where
  stored : r ∈ s.store.toolReceipts.values
  answered : ∃ call input case, label = .advance call.id input ∧ s.call? call.id = some call ∧
    call.point.reconciled? = some r.invocation.id ∧ call.host.governance = true ∧
    Entry.answered call.id case ∈ (s.shared.advance platform call input).entries
  settled : ∀ run, (s.step platform label).store.runs.get? r.invocation.runId = some run →
    run.settledFor r.invocation

theorem Traced.after (platform : Platform) (labels : List Label) :
    Traced (Sys.after platform labels).store :=
  Sys.run_keeps (P := fun s => Traced s.store) (fun _ label h => h.step label) .empty labels

/-- Such a step leaves the run repaired. -/
theorem RepairedBy.repaired {labels : List Label} {label : Label}
    (h : RepairedBy platform (Sys.after platform labels) label r) :
    Repaired (Sys.after platform (labels ++ [label])).store r := by
  have traced := Traced.after platform labels
  have agreed := Claims.after platform labels
  obtain ⟨call, input, case, rfl, found, about, governed, answered⟩ := h.answered
  obtain ⟨-, m, by', ok⟩ := answered_origin answered
  have here : (Sys.after platform (labels ++ [.advance call.id input])).shared.world =
      ((Sys.after platform labels).shared.advance platform call input).shared.world := by
    rw [Sys.after_concat, Sys.step_advance found]
    rfl
  have receipt : (Sys.after platform (labels ++ [.advance call.id input])).store.toolReceipts.get?
      r.id = some r := by
    rw [Sys.after_concat]
    exact receipt_stays _ _ (Registry.get?_of_mem_values h.stored)
  have stored := (ReceiptsAgree.after platform (labels ++ [.advance call.id input])).stored r
    (Registry.mem_values_of_get? receipt)
  obtain ⟨run, found', dated⟩ := CallsDated.after platform (labels ++ [.advance call.id input])
    r.invocation (Registry.mem_values_of_get? stored)
  refine ⟨receipt, ⟨⟨_, stored⟩, ?_⟩, run, found', h.settled run ?_, dated⟩
  · show Spent (Sys.after platform (labels ++ [.advance call.id input])).shared.world.store _
    rw [here]
    exact recovery_spends traced agreed h.stored by' about governed ok
  · rw [← Sys.after_concat]
    exact found'

/-- A step of `reconcile` about a repaired run changes nothing in the store. -/
theorem reconcile_repaired {s : Sys} (agree : ReceiptsAgree s.store) (h : Repaired s.store r)
    {label : Label} (reconciles : s.Reconciles r.invocation.id label) :
    (s.step platform label).store = s.store := by
  obtain ⟨call, input, rfl, found, about⟩ := reconciles
  rw [Sys.step_advance found]
  show (s.shared.advance platform call input).shared.world.store = _
  obtain ⟨id, host, point, frames⟩ := call
  cases point with
  | recoverOpen workspaceId runId invocationId connector =>
      cases input with
      | next => exact recovery_idle agree h (.opened _ _ _ _ rfl) about
      | _ => rfl
  | recoverApply workspaceId runId invocationId i lookup =>
      cases input with
      | next => exact recovery_idle agree h (.applied _ _ _ _ _ rfl) about
      | _ => rfl
  | repair receipt =>
      cases input with
      | next => exact recovery_idle agree h (.repaired _ rfl) about
      | _ => rfl
  | lookUp workspaceId runId invocationId i connector =>
      cases input with
      | next => exact congrArg World.store (lookUp_world platform s.shared _ _ _ _ _ _)
      | _ => rfl
  | _ => cases about

/-- The recovery of governed writes, over every run, with any crashes and late replies. -/
theorem crash_recovery (platform : Platform) :
    -- The ledger has rows for intents only, and at most one for an intent.
    (∀ labels, (∀ row ∈ (Sys.after platform labels).shared.ledger.values,
        ∃ intentId, RowFor platform (Sys.after platform labels) intentId row) ∧
      ∀ intentId row row', RowFor platform (Sys.after platform labels) intentId row →
        RowFor platform (Sys.after platform labels) intentId row' → row = row') ∧
    -- An observed receipt of a tool on the ledger has the output of the row of its call.
    (∀ labels grant, (∀ host request, Label.open host request ∈ labels → host.OnLedger grant) →
      ∀ r ∈ (Sys.after platform labels).store.toolReceipts.values,
        r.invocation.toolVersion.grant = grant → r.remoteOutcome = .observed →
        ∃ output, r.output = some output ∧
          DeliveredIn platform (Sys.after platform labels).shared.ledger r.invocation output) ∧
    -- The answer that a call was not executed: its lookup has found no row for its key.
    (∀ labels callId case, Entry.answered callId case ∈ (Sys.after platform labels).log →
      case.unexecuted → ∃ before rest i key, labels = before ++ .advance callId .next :: rest ∧
        i.id = case.invocationId ∧ i.claimFields ∈ (Sys.after platform labels).store.claims ∧
        executionKey platform i = .ok key ∧
        (Sys.after platform before).LooksUp platform callId key ∧
        (Sys.after platform before).shared.ledger.get? key = none) ∧
    -- A `reconcile` call is about its invocation to its end, and no step of it dispatches.
    (∀ before host workspaceId runId invocationId connector rest,
      let s := Sys.after platform
        (before ++ .open host (.reconcile workspaceId runId invocationId connector) :: rest)
      ∀ call ∈ s.calls, call.id = (Sys.after platform before).issued →
        call.point.reconciled? = some invocationId ∧
          ∀ input, Undispatched s (s.step platform (.advance call.id input))) ∧
    -- After the first repair, `reconcile` changes no record and appends no event.
    (∀ labels label r, RepairedBy platform (Sys.after platform labels) label r →
      ∀ more label', (Sys.after platform (labels ++ label :: more)).Reconciles r.invocation.id
          label' →
        (Sys.after platform (labels ++ label :: more ++ [label'])).store =
          (Sys.after platform (labels ++ label :: more)).store) := by
  refine ⟨?_, ?_, ?_, ?_, ?_⟩
  · exact fun labels => ⟨fun row stored => row_claimed stored, fun _ _ _ => row_unique⟩
  · intro labels grant bound r stored tool observed
    have outcome := r.valid.metadata.2.2.2
    rw [observed] at outcome
    unfold ReceiptFields.expectedOutcome at outcome
    cases output : r.output with
    | none =>
        rw [output] at outcome
        replace outcome : RemoteOutcome.observed = if r.invocation.errorCode = some .rejected then
          .observedFailure else .unknown := outcome
        split at outcome <;> cases outcome
    | some o => exact ⟨o, rfl, delivered_after bound r stored tool o output⟩
  · intro labels callId case answered un
    obtain ⟨i, key, h⟩ := unexecuted_after answered un
    obtain ⟨before, rest, split, looks, absent⟩ := looked_after h.logged
    exact ⟨before, rest, i, key, split, h.about, h.claimed, h.keyed, looks, absent.symm⟩
  · intro before host workspaceId runId invocationId connector rest s call mem opened
    have numbered := (tickets_after platform (before ++ .open host (.reconcile workspaceId runId
      invocationId connector) :: rest)).1
    have about := reconcile_stays platform before rest host workspaceId runId invocationId
      connector mem opened
    exact ⟨about, fun input => reconcile_undispatched (Sys.call?_of_mem numbered mem)
      (reconciling_of_about about) input⟩
  · intro labels label r first more label' reconciles
    have kept : Repaired (Sys.after platform (labels ++ label :: more)).store r := by
      rw [show labels ++ label :: more = (labels ++ [label]) ++ more by simp, Sys.after,
        Sys.run_append]
      exact Sys.run_keeps (P := fun s => Repaired s.store r) (fun _ label h => h.step label)
        first.repaired more
    rw [Sys.after_concat]
    exact reconcile_repaired (ReceiptsAgree.after platform _) kept reconciles

/-! ### A reply that is lost -/

abbrev sampleCall : ToolInvocationId := numbered .toolInvocation 35

/-- The intent of the call that the drive asks for. -/
def sampleIntent : ActionIntentId := ⟨py "intent:id-23", by decide⟩

/-- Its fingerprint on the sample platform. -/
def sampleDigest : PyStr := List.replicate 61 48 ++ py "129"

/-- The call is approved, claimed and executed, the process dies before its reply is recorded,
and a `reconcile` after the crash stores the receipt that the ledger proves. -/
def lostReply : List Label := startedRun ++ drivenToCall ++ [
  .command (.decide sampleWorkspace sampleIntent sampleDigest sampleReviewer .approved
    (py "fine")),
  .open sampleHost (.resumeIntent sampleWorkspace sampleRun sampleIntent (changed 2)),
  .advance 1 .next,
  .advance 1 .next,
  .advance 1 .next,
  .advance 1 .next,
  .advance 1 .next,
  .crash,
  .open sampleHost (.reconcile sampleWorkspace sampleRun sampleCall (.fixture false)),
  .advance 2 .next,
  .advance 2 .next,
  .advance 2 .next]

/-- Whether an entry is an answer. -/
def Entry.answers : Entry → Bool
  | .answered _ _ => true
  | _ => false

/-- The last step of that `reconcile` repairs the run, so no later one changes anything. -/
theorem lost_reply_recovered :
    ∃ r, RepairedBy numberedPlatform (Sys.after numberedPlatform lostReply) (.advance 2 .next) r ∧
      ∀ more label', (Sys.after numberedPlatform (lostReply ++ .advance 2 .next :: more)).Reconciles
          r.invocation.id label' →
        (Sys.after numberedPlatform (lostReply ++ .advance 2 .next :: more ++ [label'])).store =
          (Sys.after numberedPlatform (lostReply ++ .advance 2 .next :: more)).store := by
  have facts : ∃ r ∈ (Sys.after numberedPlatform lostReply).store.toolReceipts.values,
      ∃ call ∈ (Sys.after numberedPlatform lostReply).calls, call.id = 2 ∧
        call.point.reconciled? = some r.invocation.id ∧ call.host.governance = true ∧
        (((Sys.after numberedPlatform lostReply).shared.advance numberedPlatform call
          .next).entries.any Entry.answers) = true ∧
        (((Sys.after numberedPlatform lostReply).step numberedPlatform
          (.advance 2 .next)).store.runs.get? r.invocation.runId).all
            (fun run => run.settledFor r.invocation) = true := by
    decide +kernel
  obtain ⟨r, stored, call, present, two, about, governed, answers, settled⟩ := facts
  have repaired : RepairedBy numberedPlatform (Sys.after numberedPlatform lostReply)
      (.advance 2 .next) r := by
    refine ⟨stored, ?_, ?_⟩
    · obtain ⟨entry, mem, isAnswer⟩ := List.any_eq_true.mp answers
      cases entry with
      | answered callId case =>
          obtain ⟨rfl, -⟩ := answered_origin mem
          have found := Sys.call?_of_mem (tickets_after numberedPlatform lostReply).1 present
          exact ⟨call, .next, case, by rw [two], found, about, governed, mem⟩
      | entered | looked => cases isAnswer
    · intro run found
      rw [found] at settled
      exact of_decide_eq_true settled
  exact ⟨r, repaired, (crash_recovery numberedPlatform).2.2.2.2 lostReply _ r repaired⟩

end Main

end AgentCompanyOS.Runtime
