import AgentCompanyOS.Runtime.Answers

/-!
# Repairs

A `reconcile` that finds a receipt applies it to the run of its call and consumes the record of
the call. A run that does not wait for a call never waits for it again, and a consumed record
stays consumed, so that the next repair finds nothing left to do.
-/

set_option autoImplicit false

namespace AgentCompanyOS.Runtime

open Foundation Foundation.Txn Domain

variable {platform : Platform}

/-! ## Records that are spent -/

section Spending

variable {s s' : RuntimeStore} {w w' : World RuntimeStore}

/-- No record of the call is still to be consumed. -/
def Spent (s : RuntimeStore) (id : ToolInvocationId) : Prop :=
  ∀ g ∈ s.governed.values, g.invocationId = some id → g.request = none ∨ g.consumed = true

theorem governedActions_eq_ok {workspaceId : WorkspaceId} {records : List GovernedAction}
    (h : governedActions workspaceId w = .ok records w') :
    w' = w ∧ records = w.store.governed.values.filter (·.intent.workspaceId = workspaceId) := by
  obtain ⟨_, -, h⟩ := (reads_getWorkspace _).then h
  have h := getStore_then h
  obtain ⟨rfl, rfl⟩ := pure_eq_ok.mp h
  exact ⟨rfl, rfl⟩

/-- A call has one record. -/
theorem record_unique (agreed : Claims platform s) (intents : OneIntent s)
    {g g' : GovernedAction} (mem : g ∈ s.governed.values) (mem' : g' ∈ s.governed.values)
    {id : ToolInvocationId} (claim : g.invocationId = some id)
    (claim' : g'.invocationId = some id) : g = g' := by
  obtain ⟨f, hf, by'⟩ := agreed.records g mem (by rw [claim]; exact Option.some_ne_none _)
  obtain ⟨f', hf', by''⟩ := agreed.records g' mem' (by rw [claim']; exact Option.some_ne_none _)
  have same : f = f' := by
    refine List.inj_on_of_nodup_map (claims_distinct s) hf hf' (Option.some.inj ?_)
    rw [← by'.claim, claim, ← claim', by''.claim]
  refine intents g mem g' mem' ?_
  rw [by'.call.2.2, by''.call.2.2, same]

/-- The record of a claimed call is one of its workspace. -/
theorem record_workspace (agreed : Claims platform s) {i : ToolInvocation}
    (claimed : i.claimFields ∈ s.claims) {g : GovernedAction} (mem : g ∈ s.governed.values)
    (claim : g.invocationId = some i.id) : g.intent.workspaceId = i.workspaceId := by
  obtain ⟨f, hf, by'⟩ := agreed.records g mem (by rw [claim]; exact Option.some_ne_none _)
  have same : f = i.claimFields := by
    refine List.inj_on_of_nodup_map (claims_distinct s) hf claimed (Option.some.inj ?_)
    rw [← by'.claim, claim]
    rfl
  rw [by'.call.1, same]
  rfl

/-- A record that is spent is left alone. -/
theorem consumed_spent {env : Env} {invocation : ToolInvocation} {u : Unit}
    (spent : Spent w.store invocation.id) (h : consumed env invocation w = .ok u w') :
    w' = w := by
  obtain ⟨records, listed, h⟩ := (reads_governedActions _).then h
  obtain ⟨-, rfl⟩ := governedActions_eq_ok listed
  cases found : (w.store.governed.values.filter
      (·.intent.workspaceId = invocation.workspaceId)).find?
      (·.invocationId = some invocation.id) with
  | none =>
      rw [found] at h
      exact (pure_eq_ok.mp h).2.symm
  | some record =>
      rw [found] at h
      have mem := (List.mem_filter.mp (List.mem_of_find?_eq_some found)).1
      have claim : record.invocationId = some invocation.id := by simpa using List.find?_some found
      have done' : ¬(record.request ≠ none ∧ record.consumed = false) := by
        rintro ⟨asked, unspent⟩
        rcases spent record mem claim with none | yes
        · exact asked none
        · rw [yes] at unspent
          cases unspent
      dsimp only at h
      rw [if_neg done'] at h
      exact (pure_eq_ok.mp h).2.symm

/-- Consuming the record of a call leaves it spent. -/
theorem consumed_spends {env : Env} {i : ToolInvocation} {u : Unit}
    (agreed : Claims platform w.store) (intents : OneIntent w.store)
    (claimed : i.claimFields ∈ w.store.claims) (h : consumed env i w = .ok u w') :
    Spent w'.store i.id := by
  obtain ⟨records, listed, h⟩ := (reads_governedActions _).then h
  obtain ⟨-, rfl⟩ := governedActions_eq_ok listed
  cases found : (w.store.governed.values.filter (·.intent.workspaceId = i.workspaceId)).find?
      (·.invocationId = some i.id) with
  | none =>
      rw [found] at h
      obtain ⟨-, rfl⟩ := pure_eq_ok.mp h
      intro g mem claim
      have here : g ∈ w.store.governed.values.filter (·.intent.workspaceId = i.workspaceId) :=
        List.mem_filter.mpr ⟨mem, decide_eq_true (record_workspace agreed claimed mem claim)⟩
      exact (List.find?_eq_none.mp found g here (decide_eq_true claim)).elim
  | some record =>
      rw [found] at h
      dsimp only at h
      have mem := (List.mem_filter.mp (List.mem_of_find?_eq_some found)).1
      have claim : record.invocationId = some i.id := by simpa using List.find?_some found
      split at h
      · obtain ⟨updated, saved⟩ := discard_eq_ok.mp h
        obtain ⟨fields, a, after⟩ := saveNextGoverned_eq_ok saved
        replace after : w'.store.governed = w.store.governed.put updated :=
          congrArg RuntimeStore.governed after
        have intent : updated.intent = record.intent :=
          (congrArg GovernedFields.intent fields).trans rfl
        intro g here claim'
        rw [after] at here
        rcases Registry.mem_values_put.mp here with rfl | ⟨old, apart⟩
        · exact .inr ((congrArg GovernedFields.consumed fields).trans rfl)
        · obtain rfl := record_unique agreed intents old mem claim' claim
          exact (apart (congrArg ActionIntent.id intent.symm)).elim
      · next settled =>
          obtain ⟨-, rfl⟩ := pure_eq_ok.mp h
          intro g here claim'
          obtain rfl := record_unique agreed intents here mem claim' claim
          by_contra open'
          rw [not_or] at open'
          exact settled ⟨open'.1, Bool.eq_false_iff.mpr open'.2⟩

/-- The record of a stored call stays spent. -/
structure SpentCall (s : RuntimeStore) (id : ToolInvocationId) : Prop where
  stored : ∃ i, s.toolInvocations.get? id = some i
  spent : Spent s id

theorem Spent.write (write : Write ordinaryKinds s s') {id : ToolInvocationId}
    (h : Spent s id) : Spent s' id := by
  cases write with
  | prepare allowed _ record absent savable =>
      have initial := savable.history
      rw [absent] at initial
      intro g mem claim
      rcases Registry.mem_values_put.mp mem with rfl | ⟨old, -⟩
      · rw [initial.2.2.2.2.2.1] at claim
        cases claim
      · exact h g old claim
  | review allowed _ old record present history kept =>
      intro g mem claim
      rcases Registry.mem_values_put.mp mem with rfl | ⟨stays, -⟩
      · rw [kept.1] at claim
        rcases h old (Registry.mem_values_of_get? present) claim with none | yes
        · exact .inl (history.2.1.trans none)
        · exact .inr (history.2.2.2.2.2.2.2.2 yes)
      · exact h g stays claim
  | claim allowed => simp at allowed
  | _ => exact h

theorem SpentCall.step {s : Sys} {id : ToolInvocationId} (h : SpentCall s.store id)
    (label : Label) : SpentCall (s.step platform label).store id := by
  have stored : ∃ i, (s.step platform label).store.toolInvocations.get? id = some i :=
    (step_effect platform s label).keepsReceipts
      (P := fun t => ∃ i, t.toolInvocations.get? id = some i) (fun change stored => by
        obtain ⟨i, stored⟩ := stored
        obtain ⟨later, found, -⟩ := change.later.1.later stored
        exact ⟨later, found⟩) h.stored
  refine ⟨stored, ?_⟩
  cases step_effect platform s label with
  | wrote later moved =>
      exact writes_induct (P := fun t => Spent t id) (fun write spent => spent.write write) moved
        h.spent
  | dispatched later host runId expected d governed v facts =>
      have reviewed : Spent v.store id := by
        have wide : Relation.ReflTransGen (Write ordinaryKinds) s.store v.store :=
          widen (by simp) facts.review
        exact writes_induct (P := fun t => Spent t id) (fun write spent => spent.write write) wide
          h.spent
      have recorded := facts.claimed.governed
      -- The call that is claimed is a new one.
      have other : d.invocation.id ≠ id := by
        rintro rfl
        obtain ⟨i, present⟩ := h.stored
        have same : v.store.toolInvocations = s.store.toolInvocations :=
          writes_frame (fun write => write.toolInvocations_eq (by simp) (by simp)) facts.review
        have absent := facts.claimed.absent
        rw [same, present] at absent
        cases absent
      cases governed with
      | none =>
          replace recorded : (s.step platform label).store.governed = v.store.governed := recorded
          intro g mem claim
          rw [recorded] at mem
          exact reviewed g mem claim
      | some record =>
          obtain ⟨claimed, fields, after⟩ := recorded
          replace after : (s.step platform label).store.governed = v.store.governed.put claimed :=
            after
          intro g mem claim
          rw [after] at mem
          rcases Registry.mem_values_put.mp mem with rfl | ⟨old, -⟩
          · have own : g.invocationId = some d.invocation.id :=
              (congrArg GovernedFields.invocationId fields).trans rfl
            rw [own] at claim
            exact (other (Option.some.inj claim)).elim
          · exact reviewed g old claim
  | operated later change =>
      obtain ⟨o, same⟩ := change.tables
      intro g mem claim
      rw [show (s.step platform label).store = s.store.operated o from same] at mem
      exact h.spent g mem claim

end Spending

/-! ## Runs that a receipt has repaired -/

section Repairing

variable {host : Host} {s s' : RuntimeStore} {w w' : World RuntimeStore} {r : ToolReceipt}

/-- Every invocation was claimed under a version that its run has had. -/
def CallsDated (s : RuntimeStore) : Prop :=
  ∀ i ∈ s.toolInvocations.values, ∃ run, s.runs.get? i.runId = some run ∧
    i.runVersion.value ≤ run.version.value

theorem Write.callsDated {K : List Kind} (write : Write K s s') (h : CallsDated s) :
    CallsDated s' := by
  intro j mem
  have dated : ∃ run, s.runs.get? j.runId = some run ∧ j.runVersion.value ≤ run.version.value := by
    cases write with
    | invocation allowed _ run action i foundRun foundAction new =>
        rcases Registry.mem_values_put.mp mem with rfl | ⟨old, -⟩
        · exact ⟨run, foundRun, by rw [new.2.2.2.1]⟩
        · exact h j old
    | receipt allowed _ previous receipt storable =>
        rcases Registry.mem_values_put.mp mem with rfl | ⟨old, -⟩
        · obtain ⟨at', fields⟩ := storable.finished
          rw [fields]
          exact h previous (Registry.mem_values_of_get? storable.present)
        · exact h j old
    | _ => exact h j mem
  obtain ⟨run, stored, at'⟩ := dated
  obtain ⟨later, found, follows⟩ := write.grown.run stored
  refine ⟨later, found, ?_⟩
  rcases follows.newer with same | newer
  · exact same ▸ at'
  · omega

theorem CallsDated.after (platform : Platform) (labels : List Label) :
    CallsDated (Sys.after platform labels).store := by
  refine Sys.run_keeps (P := fun s => CallsDated s.store) ?_ ?_ labels
  · intro s label h
    rcases step_writes platform s label with moved | change
    · exact writes_induct Write.callsDated moved h
    · obtain ⟨o, same⟩ := change.tables
      rw [same]
      exact h
  · exact fun i mem => (List.not_mem_nil mem).elim

/-- The receipt is stored, the record of its call is spent, and its run does not wait for it. -/
structure Repaired (s : RuntimeStore) (r : ToolReceipt) : Prop where
  receipt : s.toolReceipts.get? r.id = some r
  call : SpentCall s r.invocation.id
  run : ∃ run, s.runs.get? r.invocation.runId = some run ∧ run.settledFor r.invocation ∧
    r.invocation.runVersion.value ≤ run.version.value

theorem Repaired.step {s : Sys} (h : Repaired s.store r) (label : Label) :
    Repaired (s.step platform label).store r := by
  refine ⟨receipt_stays s label h.receipt, h.call.step label, ?_⟩
  obtain ⟨run, stored, settled, at'⟩ := h.run
  obtain ⟨later, found, follows⟩ := (step_grown platform s label).run stored
  refine ⟨later, found, ?_⟩
  rcases follows.newer with rfl | newer
  · exact ⟨settled, at'⟩
  · -- A changed run has another version than the one of the claim.
    refine ⟨.inr (.inr fun same => ?_), by omega⟩
    rw [same] at newer
    omega

/-! ### A repaired run is left alone -/

theorem consumeIfGoverned_spent {env : Env} {i : ToolInvocation} {u : Unit}
    (spent : Spent w.store i.id) (h : consumeIfGoverned env host i w = .ok u w') : w' = w := by
  unfold consumeIfGoverned at h
  by_cases governed : host.governance = true
  · rw [runIf_of governed] at h
    exact consumed_spent spent h
  · rw [runIf_of_not governed] at h
    cases h
    rfl

theorem reconcileReceipt_repaired {run : AgentRun} (h : Repaired w.store r)
    (ok : reconcileReceipt platform host r w = .ok run w') : w' = w := by
  obtain ⟨run', stored, -, ok⟩ := getRun_then (atomic_eq_ok.mp ok)
  obtain ⟨receipts, -, ok⟩ := (reads_toolReceipts _ _).then ok
  obtain ⟨-, ok⟩ := raiseIf_then ok
  obtain ⟨_, w₁, consuming, rest⟩ := bind_eq_ok.mp ok
  obtain ⟨run'', stored', settled, -⟩ := h.run
  rw [consumeIfGoverned_spent h.call.spent consuming,
    Option.some.inj (stored.symm.trans stored'), if_pos settled] at rest
  exact (pure_eq_ok.mp rest).2.symm

/-- The rest of a repair only reads. -/
theorem repairReceipt_rest {m : RuntimeTxn AgentRun} {f : AgentRun → RuntimeTxn RecoveryCase}
    (rolls : RollsBack m) (idle : ∀ run w', m w = .ok run w' → w'.store = w.store)
    (reads : ∀ run, Moves (writes []) (f run)) :
    (World.after ((m >>= f) w)).store = w.store := by
  cases result : m w with
  | error e w' =>
      rw [bind_of_error result]
      exact rolls.store_eq result
  | ok run w' =>
      rw [bind_of_ok result]
      exact (writes_nil (reads run w').2).trans (idle run w' result)

/-- `reconcile_receipt` asks for a stored receipt. -/
theorem reconcileReceipt_stored {run : AgentRun}
    (ok : reconcileReceipt platform host r w = .ok run w') :
    r ∈ w.store.toolReceipts.values := by
  obtain ⟨run', -, -, ok⟩ := getRun_then (atomic_eq_ok.mp ok)
  obtain ⟨receipts, listed, ok⟩ := (reads_toolReceipts _ _).then ok
  obtain ⟨known, -⟩ := raiseIf_then ok
  obtain ⟨-, rfl⟩ := toolReceipts_eq_ok listed
  exact (List.mem_filter.mp (not_not.mp known)).1

theorem repairReceipt_repaired (agree : ReceiptsAgree w.store) (h : Repaired w.store r)
    {receipt : ToolReceipt} (same : receipt.invocation.id = r.invocation.id) :
    (World.after (repairReceipt platform host receipt w)).store = w.store := by
  refine repairReceipt_rest (RollsBack.atomic _) ?_ ?_
  · intro run w' ok
    obtain rfl := agree.single receipt (reconcileReceipt_stored ok) r
      (Registry.mem_values_of_get? h.receipt) same
    rw [reconcileReceipt_repaired h ok]
  · exact fun run => (moves_receiptReason _ run receipt).bind fun _ => Moves.pure _

/-! ### What `reconcile` does when there is a receipt -/

/-- The receipt that `reconcile` finds for a call that has one. -/
theorem found_receipt (agree : ReceiptsAgree s) (stored : r ∈ s.toolReceipts.values)
    {runId : AgentRunId} {i : ToolInvocation}
    (found : (s.toolInvocations.values.filter (·.runId = runId)).find?
      (·.id = r.invocation.id) = some i) :
    (s.toolReceipts.values.filter (·.invocation.runId = runId)).find?
      (·.invocation.id = r.invocation.id) = some r := by
  have same : i.id = r.invocation.id := by simpa using List.find?_some found
  obtain ⟨mem, own⟩ := List.mem_filter.mp (List.mem_of_find?_eq_some found)
  have here : s.toolInvocations.get? i.id = some i := Registry.get?_of_mem_values mem
  rw [same, agree.stored r stored] at here
  have listed : r ∈ s.toolReceipts.values.filter (·.invocation.runId = runId) := by
    refine List.mem_filter.mpr ⟨stored, ?_⟩
    rw [Option.some.inj here]
    exact own
  cases result : (s.toolReceipts.values.filter (·.invocation.runId = runId)).find?
      (·.invocation.id = r.invocation.id) with
  | none => exact (List.find?_eq_none.mp result r listed (decide_eq_true rfl)).elim
  | some r' =>
      have mem' := (List.mem_filter.mp (List.mem_of_find?_eq_some result)).1
      rw [agree.single r' mem' r stored (by simpa using List.find?_some result)]

/-- With a receipt stored, a transaction of `reconcile` that returns repairs by it. -/
theorem recovery_repairs {call : Call} {m : RuntimeTxn RecoveryStep} {step : RecoveryStep}
    (agree : ReceiptsAgree w.store) (stored : r ∈ w.store.toolReceipts.values)
    (by' : RecoversBy platform call m) (about : call.point.reconciled? = some r.invocation.id)
    (ok : m w = .ok step w') :
    ∃ case, repairReceipt platform call.host r w = .ok case w' := by
  cases by' with
  | opened workspaceId runId invocationId connector at' =>
      rw [at'] at about
      obtain rfl := Option.some.inj about
      obtain ⟨run, i?, receipt, -, listed, existing, ok⟩ := findRecovery_found (atomic_eq_ok.mp ok)
      obtain ⟨i, found, ok⟩ := need_then ok
      rw [found] at listed
      rw [found_receipt agree stored listed] at existing
      subst existing
      obtain ⟨case, w₁, repaired, ok⟩ := bind_eq_ok.mp ok
      obtain ⟨-, rfl⟩ := pure_eq_ok.mp ok
      exact ⟨case, repaired⟩
  | applied workspaceId runId invocationId invocation lookup at' =>
      rw [at'] at about
      obtain rfl := Option.some.inj about
      obtain ⟨run, i?, receipt, -, listed, existing, ok⟩ := findRecovery_found (atomic_eq_ok.mp ok)
      obtain ⟨i, found, ok⟩ := need_then ok
      rw [found] at listed
      rw [found_receipt agree stored listed] at existing
      subst existing
      obtain ⟨case, w₁, repaired, ok⟩ := bind_eq_ok.mp ok
      obtain ⟨-, rfl⟩ := pure_eq_ok.mp ok
      exact ⟨case, repaired⟩
  | repaired receipt at' =>
      rw [at'] at about
      have same : receipt.invocation.id = r.invocation.id := Option.some.inj about
      obtain ⟨case, w₁, repaired, ok⟩ := bind_eq_ok.mp ok
      obtain ⟨-, rfl⟩ := pure_eq_ok.mp ok
      obtain ⟨run, w₂, reconciled, -⟩ := bind_eq_ok.mp repaired
      obtain rfl := agree.single receipt (reconcileReceipt_stored reconciled) r stored same
      exact ⟨case, repaired⟩

/-- On a repaired run `reconcile` changes nothing. -/
theorem recovery_idle {call : Call} {m : RuntimeTxn RecoveryStep} (agree : ReceiptsAgree w.store)
    (h : Repaired w.store r) (by' : RecoversBy platform call m)
    (about : call.point.reconciled? = some r.invocation.id) :
    (World.after (m w)).store = w.store := by
  have stored : r ∈ w.store.toolReceipts.values := Registry.mem_values_of_get? h.receipt
  cases result : m w with
  | ok step w' =>
      obtain ⟨case, repaired⟩ := recovery_repairs agree stored by' about result
      have same : (World.after (repairReceipt platform call.host r w)).store = w.store :=
        repairReceipt_repaired agree h rfl
      rw [repaired] at same
      exact same
  | error e w' =>
      cases by' with
      | opened workspaceId runId invocationId connector at' => exact atomic_eq_error result
      | applied workspaceId runId invocationId i lookup at' => exact atomic_eq_error result
      | repaired receipt at' =>
          rw [at'] at about
          have same : (World.after (repairReceipt platform call.host receipt w)).store = w.store :=
            repairReceipt_repaired agree h (Option.some.inj about)
          rcases bind_eq_error.mp result with raised | ⟨_, _, -, raised⟩
          · rw [raised] at same
            exact same
          · cases raised

/-- A receipt that is applied by a host with governance leaves the record of its call spent. -/
theorem reconcileReceipt_spends {run : AgentRun} (traced : Traced w.store)
    (agreed : Claims platform w.store) (governed : host.governance = true)
    (ok : reconcileReceipt platform host r w = .ok run w') : Spent w'.store r.invocation.id := by
  have stored := traced.receipts.stored r (reconcileReceipt_stored ok)
  have claimed : r.invocation.claimFields ∈ w.store.claims :=
    List.mem_map_of_mem (Registry.mem_values_of_get? stored)
  obtain ⟨run', -, -, ok⟩ := getRun_then (atomic_eq_ok.mp ok)
  obtain ⟨receipts, -, ok⟩ := (reads_toolReceipts _ _).then ok
  obtain ⟨-, ok⟩ := raiseIf_then ok
  obtain ⟨_, w₁, consuming, rest⟩ := bind_eq_ok.mp ok
  unfold consumeIfGoverned at consuming
  rw [runIf_of governed] at consuming
  have spent := consumed_spends agreed traced.intents claimed consuming
  -- The rest writes the run and the logs.
  have moved : Relation.ReflTransGen (Write [.run, .audit]) w₁.store w'.store := by
    split at rest
    · obtain ⟨-, rfl⟩ := pure_eq_ok.mp rest
      exact .refl
    · obtain ⟨at', w₂, -, s₂, rest⟩ := Idle.then (moves_now platform.toEnv) rest
      rw [← s₂]
      split at rest
      · obtain ⟨-, rfl⟩ := pure_eq_ok.mp rest
        exact .refl
      · obtain ⟨applies, w₃, -, s₃, rest⟩ :=
          Idle.then (Moves.catching (idle_receiptApplies host run' r.invocation)
            moves_receiptFailure) rest
        rw [← s₃]
        split at rest
        · exact ((moves_applyReceipt (K := [.run, .audit]) platform.toEnv run' r).of_ok rest).2
        · obtain ⟨-, rfl⟩ := pure_eq_ok.mp rest
          exact .refl
  have same : w'.store.governed = w₁.store.governed :=
    writes_frame (fun write => write.governed_eq (by simp) (by simp) (by simp)) moved
  intro g mem claim
  rw [same] at mem
  exact spent g mem claim

/-- An answer of `reconcile` about a stored receipt leaves the record of its call spent. -/
theorem recovery_spends {call : Call} {m : RuntimeTxn RecoveryStep} {step : RecoveryStep}
    (traced : Traced w.store) (agreed : Claims platform w.store)
    (stored : r ∈ w.store.toolReceipts.values) (by' : RecoversBy platform call m)
    (about : call.point.reconciled? = some r.invocation.id)
    (governed : call.host.governance = true) (ok : m w = .ok step w') :
    Spent w'.store r.invocation.id := by
  obtain ⟨case, repaired⟩ := recovery_repairs traced.receipts stored by' about ok
  obtain ⟨run, w₁, reconciled, rest⟩ := bind_eq_ok.mp repaired
  have spent := reconcileReceipt_spends traced agreed governed reconciled
  have read : Moves (writes []) (receiptReason platform.toEnv run r >>= fun reason =>
      (pure ⟨run.workspaceId, r.invocation.id, reason, receiptOutcome r⟩ :
        RuntimeTxn RecoveryCase)) :=
    (moves_receiptReason platform.toEnv run r).bind fun _ => Moves.pure _
  rw [writes_nil (read.of_ok rest).2]
  exact spent

end Repairing

end AgentCompanyOS.Runtime
