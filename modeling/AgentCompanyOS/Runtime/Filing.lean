import AgentCompanyOS.Runtime.Ledger

/-!
# Where receipts come from

A receipt is filed by the transaction that applies a reply, or by the one that applies a
lookup, and its output is the one that the reply or the lookup has.
-/

set_option autoImplicit false

namespace AgentCompanyOS.Runtime

open Foundation Foundation.Txn Domain

variable {platform : Platform}

/-! ## Filing a receipt -/

section Filing

variable {host : Host} {w w' : World RuntimeStore}

theorem Write.toolReceipts_eq {K : List Kind} {s s' : RuntimeStore} (h : Write K s s')
    (noReceipt : .receipt ∉ K) : s'.toolReceipts = s.toolReceipts := by
  cases h <;> first | rfl | contradiction

/-- Writes of other kinds leave the receipts alone. -/
theorem receipts_frame {K : List Kind} {s s' : RuntimeStore}
    (moved : Relation.ReflTransGen (Write K) s s') (noReceipt : .receipt ∉ K) :
    s'.toolReceipts = s.toolReceipts :=
  writes_frame (fun write => write.toolReceipts_eq noReceipt) moved

/-- The end of a call does not change its claim. -/
theorem finish_claimFields {i j : ToolInvocation} {at' : Instant} {error : Option ToolError}
    (h : i.finish at' error = .ok j) : j.claimFields = i.claimFields := by
  obtain ⟨-, fields⟩ := ToolInvocation.finish_eq_ok h
  unfold ToolInvocation.claimFields
  rw [fields]

theorem finishToolInvocation_receipts {receipt : ToolReceipt} {u : Unit}
    (h : finishToolInvocation receipt w = .ok u w') :
    w'.store.toolReceipts = w.store.toolReceipts.put receipt := by
  obtain ⟨-, rfl⟩ := checked_write_ok (reads_checkReceipt receipt) h
  rfl

/-- The receipt of a reply has its claim, and an output only if the reply has it. -/
theorem storeReceipt_receipts {run : AgentRun} {invocation : ToolInvocation}
    {output : Option ToolOutput} {error : Option ToolError} {inputBytes outputBytes : Nat}
    {receipt : ToolReceipt}
    (h : storeReceipt platform host run invocation output error inputBytes outputBytes w =
      .ok receipt w') :
    w'.store.toolReceipts = w.store.toolReceipts.put receipt ∧
      receipt.invocation.claimFields = invocation.claimFields ∧
      ∀ o, receipt.output = some o → output = some o := by
  obtain ⟨finishedAt, w₁, -, s₁, h⟩ := Idle.then (moves_now _) h
  obtain ⟨finished, finishing, h⟩ := (reads_checked _).then h
  obtain ⟨id, w₂, -, s₂, h⟩ := Idle.then (moves_fresh _ _) h
  obtain ⟨made, creating, h⟩ := (reads_checked _).then h
  obtain ⟨_, w₃, stored, h⟩ := bind_eq_ok.mp h
  obtain ⟨_, w₄, spent, h⟩ := bind_eq_ok.mp h
  obtain ⟨recordedAt, w₅, -, s₅, h⟩ := Idle.then (moves_now _) h
  obtain ⟨_, w₆, logged, h⟩ := bind_eq_ok.mp h
  obtain ⟨rfl, rfl⟩ := pure_eq_ok.mp h
  have fields := ToolReceipt.create_eq_ok (checked_eq_ok.mp creating).1
  refine ⟨?_, ?_, ?_⟩
  · have kept := receipts_frame ((moves_runEvent (K := [.audit]) _ _ _ _).of_ok logged).2
      (by simp)
    have kept' := receipts_frame ((moves_consumeIfGoverned (K := [.review, .audit]) _ host
      _).of_ok spent).2 (by simp)
    rw [kept, s₅, kept', finishToolInvocation_receipts stored, s₂, s₁]
  · rw [show made.invocation = finished from congrArg ReceiptFields.invocation fields]
    exact finish_claimFields (checked_eq_ok.mp finishing).1
  · intro o filed
    rw [show made.output = if error = none then output else none from
      congrArg ReceiptFields.output fields] at filed
    split at filed
    · exact filed
    · cases filed

theorem reconcileReply_receipts {invocation : ToolInvocation} {action : Action}
    {output : Option ToolOutput} {error : Option ToolError} {inputBytes outputBytes : Nat}
    {updated : AgentRun}
    (h : reconcileReply platform host invocation action output error inputBytes outputBytes w =
      .ok updated w') :
    ∃ receipt : ToolReceipt, w'.store.toolReceipts = w.store.toolReceipts.put receipt ∧
      receipt.invocation.claimFields = invocation.claimFields ∧
      ∀ o, receipt.output = some o → output = some o := by
  have h := atomic_eq_ok.mp h
  obtain ⟨run, found, -, h⟩ := getRun_then h
  obtain ⟨⟨error', stale⟩, w₁, -, s₁, h⟩ :=
    (idle_judgeReply platform.toEnv host run invocation error).then h
  obtain ⟨receipt, w₂, recorded, h⟩ := bind_eq_ok.mp h
  obtain ⟨filed, claim, kept⟩ := storeReceipt_receipts recorded
  refine ⟨receipt, ?_, claim, kept⟩
  rw [s₁] at filed
  rw [← filed]
  split at h
  · obtain ⟨-, rfl⟩ := pure_eq_ok.mp h
    rfl
  · obtain ⟨data, w₃, -, s₃, h⟩ := (idle_observationOf receipt).then h
    rw [← s₃]
    exact receipts_frame ((moves_observe (K := [.run, .audit]) _ _ _ _).of_ok h).2 (by simp)

/-- The receipt of a lookup has its claim, and the output that the lookup proves. -/
theorem recoverReceipt_receipts {run : AgentRun} {invocation : ToolInvocation}
    {lookup : RemoteLookup} {receipt : ToolReceipt}
    (h : recoverReceipt platform host run invocation lookup w = .ok receipt w') :
    w'.store.toolReceipts = w.store.toolReceipts.put receipt ∧
      receipt.invocation.claimFields = invocation.claimFields ∧
      provenOutput lookup invocation = .ok receipt.output := by
  obtain ⟨output, proven, h⟩ := (reads_validated _).then h
  obtain ⟨id, w₁, -, s₁, h⟩ := Idle.then (moves_fresh _ _) h
  obtain ⟨finishedAt, w₂, -, s₂, h⟩ := Idle.then (moves_now _) h
  obtain ⟨finished, finishing, h⟩ := (reads_checked _).then h
  obtain ⟨made, creating, h⟩ := (reads_checked _).then h
  obtain ⟨_, w₃, stored, h⟩ := bind_eq_ok.mp h
  obtain ⟨_, w₄, spent, h⟩ := bind_eq_ok.mp h
  obtain ⟨_, w₅, logged, h⟩ := bind_eq_ok.mp h
  obtain ⟨rfl, rfl⟩ := pure_eq_ok.mp h
  have fields := ToolReceipt.create_eq_ok (checked_eq_ok.mp creating).1
  refine ⟨?_, ?_, ?_⟩
  · have kept := receipts_frame ((moves_runEvent (K := [.audit]) _ _ _ _).of_ok logged).2
      (by simp)
    have kept' := receipts_frame ((moves_consumeIfGoverned (K := [.review, .audit]) _ host
      _).of_ok spent).2 (by simp)
    rw [kept, kept', finishToolInvocation_receipts stored, s₂, s₁]
  · rw [show made.invocation = finished from congrArg ReceiptFields.invocation fields]
    exact finish_claimFields (checked_eq_ok.mp finishing).1
  · rw [show made.output = output from congrArg ReceiptFields.output fields]
    exact validated_eq_ok proven

theorem repairReceipt_receipts {receipt : ToolReceipt} {case : RecoveryCase}
    (h : repairReceipt platform host receipt w = .ok case w') :
    w'.store.toolReceipts = w.store.toolReceipts :=
  receipts_frame ((moves_repairReceipt (K := [.review, .run, .audit]) _ _ _).of_ok h).2 (by simp)

/-- A lookup that is applied files the receipt that it proves, or none. -/
theorem recoverApply_receipts {workspaceId : WorkspaceId} {runId : AgentRunId}
    {invocationId : ToolInvocationId} {invocation : ToolInvocation} {lookup : RemoteLookup}
    {step : RecoveryStep}
    (h : recoverApply platform host workspaceId runId invocationId invocation lookup w =
      .ok step w') :
    w'.store.toolReceipts = w.store.toolReceipts ∨
      ∃ receipt : ToolReceipt, w'.store.toolReceipts = w.store.toolReceipts.put receipt ∧
        receipt.invocation.claimFields = invocation.claimFields ∧
        lookup.status ≠ .unknown ∧ lookup.status ≠ .neverReceived ∧
        provenOutput lookup invocation = .ok receipt.output := by
  have h := atomic_eq_ok.mp h
  obtain ⟨⟨run, current, receipt⟩, h⟩ := findRecovery_then h
  obtain ⟨found, -, h⟩ := need_then h
  cases receipt with
  | some existing =>
      obtain ⟨case, w₁, repaired, h⟩ := bind_eq_ok.mp h
      obtain ⟨-, rfl⟩ := pure_eq_ok.mp h
      exact .inl (repairReceipt_receipts repaired)
  | none =>
      obtain ⟨-, h⟩ := raiseIf_then h
      obtain ⟨_, w₁, looked, h⟩ := bind_eq_ok.mp h
      have same := receipts_frame ((moves_runEvent (K := [.audit]) _ _ _ _).of_ok looked).2
        (by simp)
      split at h
      · obtain ⟨-, rfl⟩ := pure_eq_ok.mp h
        exact .inl same
      · next known =>
          obtain ⟨receipt, w₂, recorded, h⟩ := bind_eq_ok.mp h
          obtain ⟨-, rfl⟩ := pure_eq_ok.mp h
          obtain ⟨filed, claim, proven⟩ := recoverReceipt_receipts recorded
          rw [same] at filed
          exact .inr ⟨receipt, filed, claim, fun h => known (.inl h), fun h => known (.inr h),
            proven⟩

end Filing

/-! ## What a step files -/

/-- A receipt that the step of a call files. -/
inductive FiledBy (call : Call) (r : ToolReceipt) : Prop
  /-- The receipt of a reply. -/
  | replied (d : Dispatch) (reply : Except Exc PyStr) (at' : call.point = .replied d reply)
      (claim : r.invocation.claimFields = d.invocation.claimFields)
      (kept : ∀ o, r.output = some o → (judgeOutput d reply).1 = some o)
  /-- The receipt of a reply that could not be recorded. -/
  | again (d : Dispatch) (error : Exc) (at' : call.point = .again d error)
      (claim : r.invocation.claimFields = d.invocation.claimFields) (kept : r.output = none)
  /-- The receipt of a lookup. -/
  | recovered (workspaceId : WorkspaceId) (runId : AgentRunId) (invocationId : ToolInvocationId)
      (i : ToolInvocation) (lookup : RemoteLookup)
      (at' : call.point = .recoverApply workspaceId runId invocationId i lookup)
      (claim : r.invocation.claimFields = i.claimFields)
      (answer : lookup.status ≠ .unknown ∧ lookup.status ≠ .neverReceived)
      (proven : provenOutput lookup i = .ok r.output)

section Steps

variable {shared : Shared} {call : Call}

/-- What a transaction files when it returns, and nothing when it raises. -/
theorem filed_after {α : Type} {m : RuntimeTxn α} {w : World RuntimeStore}
    {P : ToolReceipt → Prop} (rolls : RollsBack m)
    (filed : ∀ a w', m w = .ok a w' → ∀ r ∈ w'.store.toolReceipts.values,
      r ∈ w.store.toolReceipts.values ∨ P r) :
    ∀ r ∈ (World.after (m w)).store.toolReceipts.values,
      r ∈ w.store.toolReceipts.values ∨ P r := by
  intro r mem
  cases h : m w with
  | ok a w' =>
      rw [h] at mem
      exact filed a w' h r mem
  | error e w' =>
      rw [h] at mem
      replace mem : r ∈ w'.store.toolReceipts.values := mem
      rw [rolls.store_eq h] at mem
      exact .inl mem

/-- Where no receipt is filed, the step leaves them alone. -/
theorem advance_receipts_eq (input : Input) (none : .receipt ∉ call.point.kinds) :
    (shared.advance platform call input).shared.world.store.toolReceipts =
      shared.world.store.toolReceipts := by
  cases advance_effect platform shared call input with
  | wrote later moved => exact receipts_frame moved none
  | dispatched workspaceId runId action expected point later d governed v same facts =>
      have review := receipts_frame facts.review (by simp)
      obtain ⟨t, g, r, i, a, rest⟩ := facts.claimed.rest
      rw [rest]
      exact review

/-- A receipt after a step of a call was there, or the call has filed it. -/
theorem advance_receipts (platform : Platform) (shared : Shared) (call : Call) (input : Input) :
    ∀ r ∈ (shared.advance platform call input).shared.world.store.toolReceipts.values,
      r ∈ shared.world.store.toolReceipts.values ∨ FiledBy call r := by
  have quiet : .receipt ∉ call.point.kinds →
      ∀ r ∈ (shared.advance platform call input).shared.world.store.toolReceipts.values,
        r ∈ shared.world.store.toolReceipts.values ∨ FiledBy call r := by
    intro none r mem
    rw [advance_receipts_eq input none] at mem
    exact .inl mem
  have put : ∀ {w w' : World RuntimeStore} {receipt : ToolReceipt},
      w'.store.toolReceipts = w.store.toolReceipts.put receipt → FiledBy call receipt →
      ∀ r ∈ w'.store.toolReceipts.values, r ∈ w.store.toolReceipts.values ∨ FiledBy call r := by
    intro w w' receipt filed by' r mem
    rw [filed] at mem
    rcases Registry.mem_values_put.mp mem with rfl | ⟨old, -⟩
    · exact .inr by'
    · exact .inl old
  obtain ⟨id, host, point, frames⟩ := call
  cases point with
  | replied d reply =>
      cases input with
      | next =>
          refine filed_after (RollsBack.atomic _) ?_
          intro run w' h
          obtain ⟨receipt, filed, claim, kept⟩ := reconcileReply_receipts h
          exact put filed (.replied d reply rfl claim kept)
      | _ => exact fun r mem => .inl mem
  | again d error =>
      cases input with
      | next =>
          refine filed_after (RollsBack.atomic _) ?_
          intro run w' h
          obtain ⟨receipt, filed, claim, kept⟩ := reconcileReply_receipts h
          refine put filed (.again d error rfl claim ?_)
          cases output : receipt.output with
          | none => rfl
          | some o => cases kept o output
      | _ => exact fun r mem => .inl mem
  | recoverApply workspaceId runId invocationId i lookup =>
      cases input with
      | next =>
          refine filed_after (RollsBack.atomic _) ?_
          intro step w' h
          rcases recoverApply_receipts h with same | ⟨receipt, filed, claim, unknown, never, proven⟩
          · intro r mem
            rw [same] at mem
            exact .inl mem
          · exact put filed (.recovered _ _ _ i lookup rfl claim ⟨unknown, never⟩ proven)
      | _ => exact fun r mem => .inl mem
  | driveEntry | claim | model | failing | invoke | entering | executing | resumeExpire
    | resumeOpen | restoreWait | recoverOpen | lookUp | repair =>
      exact quiet (by simp [Point.kinds])

/-- A receipt after a step of the system was there, or a call has filed it. -/
theorem step_receipts (s : Sys) (label : Label) {r : ToolReceipt}
    (mem : r ∈ (s.step platform label).store.toolReceipts.values) :
    r ∈ s.store.toolReceipts.values ∨ ∃ call ∈ s.calls, FiledBy call r := by
  cases label with
  | advance id input =>
      cases found : s.call? id with
      | none =>
          rw [Sys.step_unknown found] at mem
          exact .inl mem
      | some call =>
          rw [Sys.step_advance found] at mem
          rcases advance_receipts platform s.shared call input r mem with old | filed
          · exact .inl old
          · exact .inr ⟨call, (Sys.call?_eq_some found).1, filed⟩
  | command command =>
      left
      cases kind : command.operational with
      | false =>
          have moved := (command_writes platform command kind s.shared.world).2
          have same := receipts_frame moved (by
            cases command with
            | domain command => cases command <;> simp [HostCommand.kinds, commandKind]
            | _ => simp [HostCommand.kinds])
          rw [← same]
          exact mem
      | true =>
          obtain ⟨o, same⟩ := (command_operates platform command kind s.shared.world).2.tables
          replace mem : r ∈ (World.after
            (command.txn platform s.shared.world)).store.toolReceipts.values := mem
          rw [same] at mem
          exact mem
  | restore request =>
      left
      have moved := moves_restore request s.shared.world
      replace mem : r ∈ (s.restored request).store.toolReceipts.values := mem
      unfold Sys.restored at mem
      cases h : Runtime.restore request s.shared.world with
      | ok u w =>
          rw [h] at moved mem
          obtain ⟨o, same⟩ := moved.2.tables
          replace same : w.store = s.store.operated o := same
          replace mem : r ∈ w.store.toolReceipts.values := mem
          rw [same] at mem
          exact mem
      | error e w =>
          rw [h] at mem
          exact mem
  | _ => exact .inl mem

end Steps

/-! ## Observed outcomes -/

/-- A host that runs the tool of a grant on the fixture ledger. -/
def Host.OnLedger (host : Host) (grant : ToolGrant) : Prop :=
  ∃ reject, host.executor grant = some (.recoverable reject)

/-- The output is what the text in the row of the call validates to. -/
def DeliveredIn (platform : Platform) (ledger : Ledger) (i : ToolInvocation)
    (output : ToolOutput) : Prop :=
  ∃ key row text, executionKey platform i = .ok key ∧ ledger.get? key = some row ∧
    row.status = .processedSuccess ∧ row.outputJson = some text ∧
    validateOutput text i.toolVersion i.validatedInput = .ok output

theorem DeliveredIn.congr {ledger : Ledger} {i j : ToolInvocation} {output : ToolOutput}
    (same : i.claimFields = j.claimFields) (h : DeliveredIn platform ledger i output) :
    DeliveredIn platform ledger j output := by
  obtain ⟨key, row, text, keyed, stored, status, written, valid⟩ := h
  refine ⟨key, row, text, (executionKey_congr same).symm.trans keyed, stored, status, written, ?_⟩
  rw [show j.toolVersion = i.toolVersion from
      (congrArg InvocationFields.toolVersion same).symm,
    show j.validatedInput = i.validatedInput from
      (congrArg InvocationFields.validatedInput same).symm]
  exact valid

theorem DeliveredIn.later {ledger ledger' : Ledger} {i : ToolInvocation} {output : ToolOutput}
    (rows : ledger.Evolves Eq ledger') (h : DeliveredIn platform ledger i output) :
    DeliveredIn platform ledger' i output := by
  obtain ⟨key, row, text, keyed, stored, rest⟩ := h
  obtain ⟨later, found, same⟩ := rows.later stored
  obtain rfl : row = later := same
  exact ⟨key, row, text, keyed, found, rest⟩

/-- A reply with an output is a text that validates to it. -/
theorem judgeOutput_eq_some {d : Dispatch} {reply : Except Exc PyStr} {output : ToolOutput}
    (h : (judgeOutput d reply).1 = some output) : ∃ raw, reply = .ok raw ∧
      validateOutput raw d.invocation.toolVersion d.invocation.validatedInput = .ok output := by
  unfold judgeOutput at h
  split at h
  · cases h
  · cases h
  · cases h
  · cases h
  · next raw =>
      split at h
      · cases h
      · next output' valid =>
          cases h
          exact ⟨raw, rfl, valid⟩

/-- The rows of a reachable ledger say how their delivery went. -/
theorem LedgerKnown.settled {s : Sys} (h : LedgerKnown platform s) {key : PyStr}
    {row : LedgerRow} (stored : s.shared.ledger.get? key = some row) : row.Settled := by
  obtain ⟨i, -, written⟩ := h.rows row (Registry.mem_values_of_get? stored)
  exact written.settled

/-- An output that a lookup proves is that of the row which it has found. -/
theorem LookedUp.delivered {s : Sys} {callId : Nat} {i : ToolInvocation} {lookup : RemoteLookup}
    {key : PyStr} {unknown : Bool} {row : Option LedgerRow} {output : ToolOutput}
    (known : LedgerKnown platform s) (h : LookedUp platform s callId i lookup key unknown row)
    (answer : lookup.status ≠ .unknown ∧ lookup.status ≠ .neverReceived)
    (proven : provenOutput lookup i = .ok (some output)) :
    DeliveredIn platform s.shared.ledger i output := by
  have answered := h.answer
  cases unknown with
  | true =>
      rw [answered] at answer
      exact (answer.1 rfl).elim
  | false =>
      cases row with
      | none =>
          rw [answered] at answer
          exact (answer.2 rfl).elim
      | some row =>
          have stored := h.stays row rfl
          replace answered : lookup = ⟨row.status, row.outputJson⟩ := answered
          unfold provenOutput at proven
          cases known.settled stored with
          | delivered status text written =>
              rw [answered, status, written] at proven
              refine ⟨key, row, text, h.keyed, stored, status, written, ?_⟩
              cases valid : validateOutput text i.toolVersion i.validatedInput with
              | ok found =>
                  replace proven : (validateOutput text i.toolVersion i.validatedInput >>=
                    fun output => Except.ok (some output)) = .ok (some output) := proven
                  rw [valid] at proven
                  cases proven
                  rfl
              | error code =>
                  replace proven : (validateOutput text i.toolVersion i.validatedInput >>=
                    fun output => Except.ok (some output)) = .ok (some output) := proven
                  rw [valid] at proven
                  cases proven
          | rejected status written =>
              rw [answered, if_pos status] at proven
              cases proven

/-- A receipt that a call files has the output of the row. -/
theorem FiledBy.delivered {s : Sys} (known : LedgerKnown platform s) {call : Call}
    (present : call ∈ s.calls) {r : ToolReceipt} (filed : FiledBy call r)
    (bound : call.host.OnLedger r.invocation.toolVersion.grant) {output : ToolOutput}
    (observed : r.output = some output) :
    DeliveredIn platform s.shared.ledger r.invocation output := by
  have informed := known.calls call present
  cases filed with
  | replied d reply at' claim kept =>
      obtain ⟨raw, rfl, valid⟩ := judgeOutput_eq_some (kept output observed)
      obtain ⟨-, executor⟩ := informed.carried d (by rw [at']; rfl)
      obtain ⟨reject, recoverable⟩ := bound
      have tool : r.invocation.toolVersion = d.invocation.toolVersion := by
        have same := congrArg InvocationFields.toolVersion claim
        exact same
      rw [tool, executor] at recoverable
      obtain ⟨key, row, keyed, stored, reply⟩ :=
        informed.delivered d raw reject at' (Option.some.inj recoverable)
      obtain ⟨status, written⟩ := (known.settled stored).reply reply
      exact DeliveredIn.congr claim.symm
        ⟨key, row, raw, keyed, stored, status, written, valid⟩
  | again d error at' claim none =>
      rw [none] at observed
      cases observed
  | recovered workspaceId runId invocationId i lookup at' claim answer proven =>
      obtain ⟨key, unknown, row, looked⟩ :=
        informed.looked workspaceId runId invocationId i lookup at'
      rw [observed] at proven
      exact (looked.delivered known answer proven).congr claim.symm

/-- The host of a call was given when the call was opened. -/
theorem host_opened {labels : List Label} {call : Call}
    (mem : call ∈ (Sys.after platform labels).calls) :
    ∃ request, Label.open call.host request ∈ labels := by
  induction labels using List.reverseRecOn generalizing call with
  | nil => exact (List.not_mem_nil mem).elim
  | append_singleton labels label ih =>
      rw [Sys.after_concat] at mem
      have earlier : ∀ {old : Call}, old ∈ (Sys.after platform labels).calls →
          ∃ request, Label.open old.host request ∈ labels ++ [label] := by
        intro old present
        obtain ⟨request, opened⟩ := ih present
        exact ⟨request, List.mem_append_left _ opened⟩
      cases call_origin (tickets_after platform labels).1 label mem with
      | stayed present => exact earlier present
      | opened host request now new =>
          rw [new, now]
          exact ⟨request, List.mem_append_right _ (List.mem_singleton_self _)⟩
      | moved moving input next now found leads new =>
          obtain ⟨request, opened⟩ := earlier (Sys.call?_eq_some found).1
          rw [new]
          exact ⟨request, opened⟩

/-- When the hosts run a tool on the ledger, the outputs of its receipts are those of the rows. -/
theorem delivered_after {labels : List Label} {grant : ToolGrant}
    (bound : ∀ host request, Label.open host request ∈ labels → host.OnLedger grant) :
    ∀ r ∈ (Sys.after platform labels).store.toolReceipts.values,
      r.invocation.toolVersion.grant = grant → ∀ output, r.output = some output →
      DeliveredIn platform (Sys.after platform labels).shared.ledger r.invocation output := by
  induction labels using List.reverseRecOn with
  | nil => exact fun r mem => (List.not_mem_nil mem).elim
  | append_singleton labels label ih =>
      have known := ledgerKnown_after platform labels
      intro r mem tool output observed
      rw [Sys.after_concat] at mem ⊢
      have rows := ledger_evolves platform (Sys.after platform labels) label
      rcases step_receipts _ label mem with old | ⟨call, present, filed⟩
      · refine (ih ?_ r old tool output observed).later rows
        exact fun host request opened => bound host request (List.mem_append_left _ opened)
      · obtain ⟨request, opened⟩ := host_opened present
        have onLedger := bound call.host request (List.mem_append_left _ opened)
        exact (filed.delivered known present (tool ▸ onLedger) observed).later rows

end AgentCompanyOS.Runtime
