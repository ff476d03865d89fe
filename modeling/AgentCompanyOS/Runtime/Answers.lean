import AgentCompanyOS.Runtime.Filing

/-!
# What recovery answers

An answer of `reconcile` that a call was not executed rests on a lookup of its own that has
found no row for the key of the call.
-/

set_option autoImplicit false

namespace AgentCompanyOS.Runtime

open Foundation Foundation.Txn Domain

variable {platform : Platform}

/-! ## What a transaction of recovery has found -/

section Found

variable {workspaceId : WorkspaceId} {runId : AgentRunId} {invocationId : ToolInvocationId}
  {host : Host} {w w' : World RuntimeStore}

theorem toolReceipts_eq_ok {receipts : List ToolReceipt}
    (h : toolReceipts workspaceId runId w = .ok receipts w') :
    w' = w ∧ receipts = w.store.toolReceipts.values.filter (·.invocation.runId = runId) := by
  obtain ⟨run, -, -, h⟩ := getRun_then h
  have h := getStore_then h
  obtain ⟨rfl, rfl⟩ := pure_eq_ok.mp h
  exact ⟨rfl, rfl⟩

theorem toolInvocations_eq_ok {invocations : List ToolInvocation}
    (h : toolInvocations workspaceId runId w = .ok invocations w') :
    w' = w ∧ invocations = w.store.toolInvocations.values.filter (·.runId = runId) := by
  obtain ⟨run, -, -, h⟩ := getRun_then h
  have h := getStore_then h
  obtain ⟨rfl, rfl⟩ := pure_eq_ok.mp h
  exact ⟨rfl, rfl⟩

/-- What `reconcile` finds is what is stored under the run. -/
theorem findRecovery_found {β : Type}
    {f : AgentRun × Option ToolInvocation × Option ToolReceipt → RuntimeTxn β} {b : β}
    (h : (findRecovery workspaceId runId invocationId >>= f) w = .ok b w') :
    ∃ run invocation receipt, w.store.runs.get? runId = some run ∧
      (w.store.toolInvocations.values.filter (·.runId = runId)).find? (·.id = invocationId) =
        invocation ∧
      (w.store.toolReceipts.values.filter (·.invocation.runId = runId)).find?
        (·.invocation.id = invocationId) = receipt ∧
      f (run, invocation, receipt) w = .ok b w' := by
  obtain ⟨found, reading, h⟩ := (reads_findRecovery _ _ _).then h
  obtain ⟨run, stored, -, reading⟩ := getRun_then reading
  obtain ⟨invocations, listed, reading⟩ := (reads_toolInvocations _ _).then reading
  obtain ⟨receipts, listed', reading⟩ := (reads_toolReceipts _ _).then reading
  obtain ⟨rfl, -⟩ := pure_eq_ok.mp reading
  obtain ⟨-, rfl⟩ := toolInvocations_eq_ok listed
  obtain ⟨-, rfl⟩ := toolReceipts_eq_ok listed'
  exact ⟨run, _, _, stored, rfl, rfl, h⟩

end Found

/-! ## Answers -/

/-- The answer says that the call was not executed. -/
def RecoveryCase.unexecuted (case : RecoveryCase) : Prop :=
  case.outcome = .notExecuted ∨ case.reason = .safeToRetry

section Answers

variable {workspaceId : WorkspaceId} {runId : AgentRunId} {invocationId : ToolInvocationId}
  {host : Host} {w w' : World RuntimeStore}

/-- The answer about a stored receipt does not say so. -/
theorem repairReceipt_executed {receipt : ToolReceipt} {case : RecoveryCase}
    (h : repairReceipt platform host receipt w = .ok case w') : ¬case.unexecuted := by
  obtain ⟨run, w₁, -, h⟩ := bind_eq_ok.mp h
  obtain ⟨reason, w₂, reasoned, h⟩ := bind_eq_ok.mp h
  obtain ⟨rfl, -⟩ := pure_eq_ok.mp h
  have reasonable : reason ≠ .safeToRetry := by
    unfold receiptReason at reasoned
    split at reasoned
    · obtain ⟨rfl, -⟩ := pure_eq_ok.mp reasoned
      decide
    · split at reasoned
      · obtain ⟨rfl, -⟩ := pure_eq_ok.mp reasoned
        decide
      · obtain ⟨execution, w₃, -, reasoned⟩ := bind_eq_ok.mp reasoned
        split at reasoned
        · obtain ⟨rfl, -⟩ := pure_eq_ok.mp reasoned
          decide
        · obtain ⟨at', w₄, -, reasoned⟩ := bind_eq_ok.mp reasoned
          obtain ⟨rfl, -⟩ := pure_eq_ok.mp reasoned
          split
          · decide
          · split <;> decide
  rintro (outcome | same)
  · replace outcome : receiptOutcome receipt = .notExecuted := outcome
    unfold receiptOutcome at outcome
    split at outcome
    · cases outcome
    · split at outcome <;> cases outcome
  · exact reasonable same

/-- An answer of the first transaction does not say so. -/
theorem recoverOpen_executed {connector : Connector} {case : RecoveryCase}
    (h : recoverOpen platform host workspaceId runId invocationId connector w =
      .ok (.answered case) w') : ¬case.unexecuted := by
  obtain ⟨run, invocation, receipt, -, -, -, h⟩ := findRecovery_found (atomic_eq_ok.mp h)
  obtain ⟨found, -, h⟩ := need_then h
  cases receipt with
  | some existing =>
      obtain ⟨case', w₁, repaired, h⟩ := bind_eq_ok.mp h
      obtain ⟨same, -⟩ := pure_eq_ok.mp h
      cases same
      exact repairReceipt_executed repaired
  | none =>
      obtain ⟨_, w₁, -, h⟩ := bind_eq_ok.mp h
      cases connector with
      | fixture unknown =>
          obtain ⟨same, -⟩ := pure_eq_ok.mp h
          cases same
      | withoutLookup =>
          obtain ⟨same, -⟩ := pure_eq_ok.mp h
          cases same
          rintro (outcome | reason)
          · cases outcome
          · cases reason

/-- Only a lookup that found nothing says so. -/
theorem recoverApply_unexecuted {invocation : ToolInvocation} {lookup : RemoteLookup}
    {case : RecoveryCase}
    (h : recoverApply platform host workspaceId runId invocationId invocation lookup w =
      .ok (.answered case) w') (un : case.unexecuted) :
    case.invocationId = invocationId ∧ invocation.id = invocationId ∧
      invocation ∈ w.store.toolInvocations.values ∧ lookup.status = .neverReceived := by
  obtain ⟨run, current?, receipt, -, listed, -, h⟩ := findRecovery_found (atomic_eq_ok.mp h)
  obtain ⟨current, found, h⟩ := need_then h
  rw [found] at listed
  cases receipt with
  | some existing =>
      obtain ⟨case', w₁, repaired, h⟩ := bind_eq_ok.mp h
      obtain ⟨same, -⟩ := pure_eq_ok.mp h
      cases same
      exact (repairReceipt_executed repaired un).elim
  | none =>
      obtain ⟨unchanged, h⟩ := raiseIf_then h
      obtain ⟨_, w₁, -, h⟩ := bind_eq_ok.mp h
      split at h
      · obtain ⟨same, -⟩ := pure_eq_ok.mp h
        cases same
        simp only [not_or, not_not] at unchanged
        obtain ⟨rfl, -⟩ := unchanged
        have never : lookup.status = .neverReceived := by
          by_contra other
          unfold unprovenCase at un
          rw [if_neg other] at un
          rcases un with outcome | reason
          · cases outcome
          · cases reason
        have about : (unprovenCase workspaceId invocationId lookup.status).invocationId =
            invocationId := by
          unfold unprovenCase
          split <;> rfl
        have present := (List.mem_filter.mp (List.mem_of_find?_eq_some listed)).1
        exact ⟨about, by simpa using List.find?_some listed, present, never⟩
      · obtain ⟨_, w₂, -, h⟩ := bind_eq_ok.mp h
        obtain ⟨same, -⟩ := pure_eq_ok.mp h
        cases same

end Answers

section Logged

variable {shared : Shared} {call : Call}

/-- The transactions of `reconcile`, by their points. -/
inductive RecoversBy (platform : Platform) (call : Call) : RuntimeTxn RecoveryStep → Prop
  | opened (workspaceId : WorkspaceId) (runId : AgentRunId) (invocationId : ToolInvocationId)
      (connector : Connector)
      (at' : call.point = .recoverOpen workspaceId runId invocationId connector) :
      RecoversBy platform call
        (recoverOpen platform call.host workspaceId runId invocationId connector)
  | applied (workspaceId : WorkspaceId) (runId : AgentRunId) (invocationId : ToolInvocationId)
      (i : ToolInvocation) (lookup : RemoteLookup)
      (at' : call.point = .recoverApply workspaceId runId invocationId i lookup) :
      RecoversBy platform call
        (recoverApply platform call.host workspaceId runId invocationId i lookup)
  | repaired (receipt : ToolReceipt) (at' : call.point = .repair receipt) :
      RecoversBy platform call (repairAnswer platform call.host receipt)

/-- What a step of a call writes into the log. -/
inductive Logs (platform : Platform) (shared : Shared) (call : Call) (input : Input)
    (a : Advance) : Prop
  | nothing (entries : a.entries = [])
  | entry (d : Dispatch) (at' : call.point = .entering d)
      (entries : a.entries = [.entered d.invocation])
  | lookup (workspaceId : WorkspaceId) (runId : AgentRunId) (invocationId : ToolInvocationId)
      (i : ToolInvocation) (connector : Connector) (key : PyStr) (now : input = .next)
      (at' : call.point = .lookUp workspaceId runId invocationId i connector)
      (keyed : executionKey platform i = .ok key)
      (entries : a.entries = [.looked call.id key (shared.ledger.get? key)])
  | recovery (m : RuntimeTxn RecoveryStep) (by' : RecoversBy platform call m)
      (world : a.shared.world = World.after (m shared.world))
      (entries : a.entries = recoveryEntries call.id (World.answer (m shared.world)))

theorem advance_logs (platform : Platform) (shared : Shared) (call : Call) (input : Input) :
    Logs platform shared call input (shared.advance platform call input) := by
  obtain ⟨id, host, point, frames⟩ := call
  cases point with
  | recoverOpen workspaceId runId invocationId connector =>
      cases input with
      | next => exact .recovery _ (.opened _ _ _ _ rfl) rfl rfl
      | _ => exact .nothing rfl
  | recoverApply workspaceId runId invocationId i lookup =>
      cases input with
      | next => exact .recovery _ (.applied _ _ _ _ _ rfl) rfl rfl
      | _ => exact .nothing rfl
  | repair receipt =>
      cases input with
      | next => exact .recovery _ (.repaired _ rfl) rfl rfl
      | _ => exact .nothing rfl
  | lookUp workspaceId runId invocationId i connector =>
      cases input with
      | next =>
          show Logs platform shared _ _ (shared.lookUp platform ⟨id, host, _, frames⟩ workspaceId
            runId invocationId i connector)
          unfold Shared.lookUp
          split
          · next key unknown keyed => exact .lookup _ _ _ i _ key rfl rfl keyed rfl
          · exact .nothing rfl
      | _ => exact .nothing rfl
  | entering d =>
      cases input with
      | next => exact .entry d rfl rfl
      | _ => exact .nothing rfl
  | model loop iteration =>
      refine .nothing ?_
      cases input with
      | model reply answers =>
          show (shared.decide platform host loop iteration frames reply answers).entries = []
          unfold Shared.decide
          split
          · rfl
          · split
            · rfl
            · split <;> rfl
      | _ => rfl
  | executing d =>
      refine .nothing ?_
      show (shared.execute platform d frames input).entries = []
      unfold Shared.execute
      split <;> rfl
  | resumeExpire workspaceId runId intentId expected =>
      refine .nothing ?_
      cases input with
      | next =>
          show (ite _ _ _ : Advance).entries = []
          split <;> rfl
      | _ => rfl
  | driveEntry | claim | failing | invoke | replied | again | resumeOpen | restoreWait =>
      cases input <;> exact .nothing rfl

/-- An answer in the log is that of a transaction of `reconcile`. -/
theorem answered_origin {input : Input} {callId : Nat} {case : RecoveryCase}
    (h : Entry.answered callId case ∈ (shared.advance platform call input).entries) :
    callId = call.id ∧ ∃ m, RecoversBy platform call m ∧ m shared.world =
      .ok (.answered case) (shared.advance platform call input).shared.world := by
  cases advance_logs platform shared call input with
  | nothing entries =>
      rw [entries] at h
      cases h
  | entry d at' entries =>
      rw [entries] at h
      cases List.mem_singleton.mp h
  | lookup workspaceId runId invocationId i connector key now at' keyed entries =>
      rw [entries] at h
      cases List.mem_singleton.mp h
  | recovery m by' world entries =>
      rw [entries] at h
      unfold recoveryEntries at h
      split at h
      · next found answer =>
          cases List.mem_singleton.mp h
          refine ⟨rfl, m, by', ?_⟩
          rw [world]
          cases result : m shared.world with
          | ok step w' =>
              rw [result] at answer
              cases answer
              rfl
          | error e w' =>
              rw [result] at answer
              cases answer
      · cases h

/-- A lookup in the log is that of a call that looks its key up. -/
theorem looked_origin {input : Input} {callId : Nat} {key : PyStr} {row : Option LedgerRow}
    (h : Entry.looked callId key row ∈ (shared.advance platform call input).entries) :
    callId = call.id ∧ input = .next ∧ row = shared.ledger.get? key ∧
      ∃ workspaceId runId invocationId i connector,
        call.point = .lookUp workspaceId runId invocationId i connector ∧
        executionKey platform i = .ok key := by
  cases advance_logs platform shared call input with
  | nothing entries =>
      rw [entries] at h
      cases h
  | entry d at' entries =>
      rw [entries] at h
      cases List.mem_singleton.mp h
  | lookup workspaceId runId invocationId i connector key now at' keyed entries =>
      rw [entries] at h
      cases List.mem_singleton.mp h
      exact ⟨rfl, now, rfl, _, _, _, i, _, at', keyed⟩
  | recovery m by' world entries =>
      rw [entries] at h
      unfold recoveryEntries at h
      split at h
      · cases List.mem_singleton.mp h
      · cases h

/-- An entry after a step was there, or the step of a call has written it. -/
theorem entry_origin (s : Sys) (label : Label) {entry : Entry}
    (mem : entry ∈ (s.step platform label).log) :
    entry ∈ s.log ∨ ∃ call input, label = .advance call.id input ∧ s.call? call.id = some call ∧
      entry ∈ (s.shared.advance platform call input).entries := by
  cases label with
  | advance id input =>
      cases found : s.call? id with
      | none =>
          rw [Sys.step_unknown found] at mem
          exact .inl mem
      | some call =>
          obtain ⟨-, rfl⟩ := Sys.call?_eq_some found
          rw [Sys.step_advance found] at mem
          rcases List.mem_append.mp mem with old | new
          · exact .inl old
          · exact .inr ⟨call, input, rfl, found, new⟩
  | restore request =>
      replace mem : entry ∈ (s.restored request).log := mem
      unfold Sys.restored at mem
      split at mem <;> exact .inl mem
  | _ => exact .inl mem

end Logged

/-! ## Answers over a run -/

section Runs

/-- A call looks a key up. -/
def Sys.LooksUp (platform : Platform) (s : Sys) (callId : Nat) (key : PyStr) : Prop :=
  ∃ call workspaceId runId invocationId i connector, s.call? callId = some call ∧
    call.point = .lookUp workspaceId runId invocationId i connector ∧
    executionKey platform i = .ok key

/-- A lookup in the log was made by some step, and it found what the ledger had then. -/
theorem looked_after {labels : List Label} {callId : Nat} {key : PyStr} {row : Option LedgerRow}
    (logged : Entry.looked callId key row ∈ (Sys.after platform labels).log) :
    ∃ before rest, labels = before ++ .advance callId .next :: rest ∧
      (Sys.after platform before).LooksUp platform callId key ∧
      row = (Sys.after platform before).shared.ledger.get? key := by
  induction labels using List.reverseRecOn with
  | nil => exact (List.not_mem_nil logged).elim
  | append_singleton labels label ih =>
      rw [Sys.after_concat] at logged
      rcases entry_origin _ label logged with old | ⟨call, input, now, found, new⟩
      · obtain ⟨before, rest, same, looks⟩ := ih old
        exact ⟨before, rest ++ [label], by rw [same]; simp, looks⟩
      · obtain ⟨rfl, rfl, same, workspaceId, runId, invocationId, i, connector, at', keyed⟩ :=
          looked_origin new
        exact ⟨labels, [], by rw [now], ⟨call, _, _, _, i, _, found, at', keyed⟩, same⟩

/-- The call of the answer, and the lookup in the log that found no row for it. -/
structure NoRowFound (platform : Platform) (s : Sys) (callId : Nat) (case : RecoveryCase)
    (i : ToolInvocation) (key : PyStr) : Prop where
  about : i.id = case.invocationId
  claimed : i.claimFields ∈ s.store.claims
  keyed : executionKey platform i = .ok key
  logged : Entry.looked callId key none ∈ s.log

/-- An answer that a call was not executed rests on such a lookup. -/
theorem unexecuted_after {labels : List Label} {callId : Nat} {case : RecoveryCase}
    (answered : Entry.answered callId case ∈ (Sys.after platform labels).log)
    (un : case.unexecuted) :
    ∃ i key, NoRowFound platform (Sys.after platform labels) callId case i key := by
  induction labels using List.reverseRecOn with
  | nil => exact (List.not_mem_nil answered).elim
  | append_singleton labels label ih =>
      rw [Sys.after_concat] at answered ⊢
      have claims := (claims_step platform (Sys.after platform labels) label).subset
      have log := (log_step platform (Sys.after platform labels) label).subset
      rcases entry_origin _ label answered with old | ⟨call, input, -, found, new⟩
      · obtain ⟨i, key, h⟩ := ih old
        exact ⟨i, key, h.about, claims h.claimed, h.keyed, log h.logged⟩
      · obtain ⟨rfl, m, by', answer⟩ := answered_origin new
        have known := ledgerKnown_after platform labels
        cases by' with
        | opened workspaceId runId invocationId connector at' =>
            exact (recoverOpen_executed answer un).elim
        | repaired receipt at' =>
            obtain ⟨case', w₁, repaired, same⟩ := bind_eq_ok.mp answer
            obtain ⟨answered, -⟩ := pure_eq_ok.mp same
            cases answered
            exact (repairReceipt_executed repaired un).elim
        | applied workspaceId runId invocationId i lookup at' =>
            obtain ⟨about, same, stored, never⟩ := recoverApply_unexecuted answer un
            obtain ⟨key, unknown, row, looked⟩ :=
              (known.calls call (Sys.call?_eq_some found).1).looked _ _ _ i lookup at'
            have absent : row = none := by
              have status := looked.answer
              cases unknown with
              | true =>
                  rw [status] at never
                  cases never
              | false =>
                  cases row with
                  | none => rfl
                  | some row =>
                      rw [status] at never
                      replace never : row.status = .neverReceived := never
                      cases known.settled (looked.stays row rfl) with
                      | delivered status => rw [status] at never; cases never
                      | rejected status => rw [status] at never; cases never
            refine ⟨i, key, same.trans about.symm, claims (List.mem_map_of_mem stored),
              looked.keyed, log ?_⟩
            rw [← absent]
            exact looked.logged

end Runs

end AgentCompanyOS.Runtime
