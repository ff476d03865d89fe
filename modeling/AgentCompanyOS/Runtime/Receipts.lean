import AgentCompanyOS.Runtime.WriteSafety

/-!
# Invocations and their receipts

A step of the system adds a running invocation, or ends a running one and files its
receipt, or leaves both tables as they are. So a running invocation has no receipt, an
ended one has the receipt that ended it, and what has ended is never written again.
-/

set_option autoImplicit false

namespace AgentCompanyOS.Runtime

open Foundation Foundation.Txn Domain

/-! ## Changes of the two tables -/

/-- What a write does to the invocations and the receipts. -/
inductive ReceiptChange (s s' : RuntimeStore) : Prop
  | same (invocations : s'.toolInvocations = s.toolInvocations)
      (receipts : s'.toolReceipts = s.toolReceipts)
  | claimed (i : ToolInvocation) (absent : s.toolInvocations.get? i.id = none)
      (running : i.status = .running)
      (invocations : s'.toolInvocations = s.toolInvocations.put i)
      (receipts : s'.toolReceipts = s.toolReceipts)
  | finished (previous : ToolInvocation) (receipt : ToolReceipt)
      (storable : ReceiptStorable s previous receipt)
      (invocations : s'.toolInvocations = s.toolInvocations.put receipt.invocation)
      (receipts : s'.toolReceipts = s.toolReceipts.put receipt)

section Changes

variable {platform : Platform} {K : List Kind} {s s' : RuntimeStore} {w w' : World RuntimeStore}

theorem Write.receiptChange (write : Write K s s') : ReceiptChange s s' := by
  cases write with
  | invocation allowed _ run action i foundRun foundAction new =>
      obtain ⟨-, -, -, -, -, -, absent, -, running, -⟩ := new
      exact .claimed i (Registry.contains_eq_false_iff.mp absent) running rfl rfl
  | receipt allowed _ previous receipt storable => exact .finished previous receipt storable rfl rfl
  | _ => exact .same rfl rfl

/-- A step of the system changes the two tables by claims and receipts. -/
theorem Effect.receiptChanges (h : Effect platform w w') :
    Relation.ReflTransGen ReceiptChange w.store w'.store := by
  cases h with
  | wrote later moved => exact Relation.ReflTransGen.mono (fun _ _ => Write.receiptChange) _ _ moved
  | dispatched later host runId expected d governed v facts =>
      have review : Relation.ReflTransGen ReceiptChange w.store v.store :=
        Relation.ReflTransGen.mono (fun _ _ => Write.receiptChange) _ _ facts.review
      refine review.tail (.claimed d.invocation facts.claimed.absent facts.claimed.started.2
        facts.claimed.invocations ?_)
      obtain ⟨t, g, r, i, a, same⟩ := facts.claimed.rest
      rw [same]
      rfl
  | operated later change =>
      obtain ⟨o, same⟩ := change.tables
      refine .single (.same ?_ ?_)
      · rw [same]
        rfl
      · rw [same]
        rfl

/-- What every change keeps, a step of the system keeps. -/
theorem Effect.keepsReceipts {P : RuntimeStore → Prop}
    (change : ∀ {s s'}, ReceiptChange s s' → P s → P s') (h : Effect platform w w')
    (holds : P w.store) : P w'.store := by
  have changes := h.receiptChanges
  generalize w'.store = s' at changes
  induction changes with
  | refl => exact holds
  | tail _ one ih => exact change one ih

end Changes

/-! ## The agreement of the two tables -/

/-- Every receipt is that of the stored invocation, which has ended; every ended invocation
has a receipt, and no two receipts are for one invocation. -/
structure ReceiptsAgree (s : RuntimeStore) : Prop where
  stored : ∀ r ∈ s.toolReceipts.values,
    s.toolInvocations.get? r.invocation.id = some r.invocation
  ended : ∀ i ∈ s.toolInvocations.values, i.status ≠ .running →
    ∃ r ∈ s.toolReceipts.values, r.invocation = i
  single : ∀ r ∈ s.toolReceipts.values, ∀ r' ∈ s.toolReceipts.values,
    r.invocation.id = r'.invocation.id → r = r'

section Agreement

variable {platform : Platform} {s s' : RuntimeStore}

/-- A receipt that is filed is for an invocation that no other receipt is for. -/
theorem ReceiptsAgree.fresh (h : ReceiptsAgree s) {previous : ToolInvocation}
    {receipt : ToolReceipt} (storable : ReceiptStorable s previous receipt) :
    ∀ r ∈ s.toolReceipts.values, r.invocation.id ≠ receipt.invocation.id := by
  intro r mem same
  have stored := h.stored r mem
  rw [same, storable.present] at stored
  obtain rfl := Option.some.inj stored
  exact r.valid.terminal storable.running

theorem ReceiptsAgree.change (change : ReceiptChange s s') (h : ReceiptsAgree s) :
    ReceiptsAgree s' := by
  cases change with
  | same invocations receipts =>
      refine ⟨?_, ?_, ?_⟩
      · rw [invocations, receipts]
        exact h.stored
      · rw [invocations, receipts]
        exact h.ended
      · rw [receipts]
        exact h.single
  | claimed i absent running invocations receipts =>
      refine ⟨?_, ?_, ?_⟩
      · intro r mem
        rw [receipts] at mem
        have stored := h.stored r mem
        have other : ToolInvocation.key i ≠ r.invocation.id := by
          intro same
          rw [← same] at stored
          cases absent.symm.trans stored
        rw [invocations, Registry.get?_put_ne _ other]
        exact stored
      · intro j mem settled
        rw [invocations] at mem
        rw [receipts]
        rcases Registry.mem_values_put.mp mem with rfl | ⟨mem, -⟩
        · exact (settled running).elim
        · exact h.ended j mem settled
      · rw [receipts]
        exact h.single
  | finished previous receipt storable invocations receipts =>
      have fresh := h.fresh storable
      refine ⟨?_, ?_, ?_⟩
      · intro r mem
        rw [receipts] at mem
        rw [invocations]
        rcases Registry.mem_values_put.mp mem with rfl | ⟨mem, -⟩
        · exact Registry.get?_put_self _ _
        · have other : ToolInvocation.key receipt.invocation ≠ r.invocation.id :=
            fun same => fresh r mem same.symm
          rw [Registry.get?_put_ne _ other]
          exact h.stored r mem
      · intro j mem settled
        rw [invocations] at mem
        rw [receipts]
        rcases Registry.mem_values_put.mp mem with rfl | ⟨mem, -⟩
        · exact ⟨receipt, Registry.mem_values_put.mpr (.inl rfl), rfl⟩
        · obtain ⟨r, stored, rfl⟩ := h.ended j mem settled
          refine ⟨r, Registry.mem_values_put.mpr (.inr ⟨stored, ?_⟩), rfl⟩
          intro same
          have found : s.toolReceipts.get? (ToolReceipt.key receipt) = some r :=
            same ▸ Registry.get?_of_mem_values stored
          cases storable.absent.symm.trans found
      · intro r mem r' mem' same
        rw [receipts] at mem mem'
        rcases Registry.mem_values_put.mp mem with new | ⟨old, -⟩
        · rcases Registry.mem_values_put.mp mem' with new' | ⟨old', -⟩
          · rw [new, new']
          · rw [new] at same
            exact (fresh r' old' same.symm).elim
        · rcases Registry.mem_values_put.mp mem' with new' | ⟨old', -⟩
          · rw [new'] at same
            exact (fresh r old same).elim
          · exact h.single r old r' old' same

theorem ReceiptsAgree.after (platform : Platform) (labels : List Label) :
    ReceiptsAgree (Sys.after platform labels).store := by
  refine Sys.run_keeps (P := fun s => ReceiptsAgree s.store) ?_ ?_ labels
  · exact fun s label h => (step_effect platform s label).keepsReceipts ReceiptsAgree.change h
  · constructor
    · intro r mem
      cases mem
    · intro i mem
      cases mem
    · intro r mem
      cases mem

end Agreement

/-! ## What has ended stays -/

section Permanence

variable {platform : Platform} {s s' : RuntimeStore}

/-- A stored receipt is never written again. -/
theorem ReceiptChange.receipt_stays (change : ReceiptChange s s') {r : ToolReceipt}
    {id : ToolReceiptId} (found : s.toolReceipts.get? id = some r) :
    s'.toolReceipts.get? id = some r := by
  cases change with
  | same invocations receipts => exact receipts ▸ found
  | claimed i absent running invocations receipts => exact receipts ▸ found
  | finished previous receipt storable invocations receipts =>
      have other : ToolReceipt.key receipt ≠ id := by
        intro same
        rw [← same] at found
        cases storable.absent.symm.trans found
      rw [receipts, Registry.get?_put_ne _ other]
      exact found

theorem receipt_stays (s : Sys) (label : Label) {r : ToolReceipt} {id : ToolReceiptId}
    (found : s.store.toolReceipts.get? id = some r) :
    (s.step platform label).store.toolReceipts.get? id = some r :=
  (step_effect platform s label).keepsReceipts
    (P := fun t => t.toolReceipts.get? id = some r) (fun change found => change.receipt_stays found)
    found

end Permanence

/-! ## Main result -/

section History

variable {platform : Platform} {s s' : RuntimeStore}

/-- What later steps may do to an invocation: nothing, or end it once. -/
inductive ToolInvocation.Later (i : ToolInvocation) : ToolInvocation → Prop
  | same : ToolInvocation.Later i i
  | ended (running : i.status = .running) (at' : Instant) (error : Option ToolError)
      (j : ToolInvocation) (fields : j.toInvocationFields = { i.toInvocationFields with
        status := finishedStatus error
        endedAt := some at'
        errorCode := error
        version := i.version.next }) :
      ToolInvocation.Later i j

/-- An invocation that has ended does not end again. -/
theorem ToolInvocation.Later.trans {i j k : ToolInvocation} (h : i.Later j) (h' : j.Later k) :
    i.Later k := by
  cases h with
  | same => exact h'
  | ended running at' error j fields =>
      cases h' with
      | same => exact .ended running at' error j fields
      | ended again =>
          rw [fields] at again
          exact (finishedStatus_ne_running error again).elim

theorem ReceiptChange.later (change : ReceiptChange s s') :
    s.toolInvocations.Evolves ToolInvocation.Later s'.toolInvocations ∧
      s.toolReceipts.Evolves Eq s'.toolReceipts := by
  cases change with
  | same invocations receipts =>
      rw [invocations, receipts]
      exact ⟨.refl (R := ToolInvocation.Later) (fun _ => .same) _, .refl (R := Eq) (fun _ => rfl) _⟩
  | claimed i absent running invocations receipts =>
      rw [invocations, receipts]
      exact ⟨.put_new (fun _ => .same) absent, .refl (R := Eq) (fun _ => rfl) _⟩
  | finished previous receipt storable invocations receipts =>
      rw [invocations, receipts]
      refine ⟨.put (fun _ => .same) fun old present => ?_, .put_new (fun _ => rfl) storable.absent⟩
      obtain rfl := Option.some.inj (storable.present.symm.trans present)
      obtain ⟨at', fields⟩ := storable.finished
      exact .ended storable.running at' receipt.invocation.errorCode _ fields

/-- The two tables only grow, and an invocation ends at most once. -/
theorem receipts_later (platform : Platform) (labels more : List Label) :
    (Sys.after platform labels).store.toolInvocations.Evolves ToolInvocation.Later
        (Sys.after platform (labels ++ more)).store.toolInvocations ∧
      (Sys.after platform labels).store.toolReceipts.Evolves Eq
        (Sys.after platform (labels ++ more)).store.toolReceipts := by
  rw [Sys.after, Sys.after, Sys.run_append]
  refine Sys.run_keeps (P := fun t =>
    (Sys.after platform labels).store.toolInvocations.Evolves ToolInvocation.Later
        t.store.toolInvocations ∧
      (Sys.after platform labels).store.toolReceipts.Evolves Eq t.store.toolReceipts) ?_ ?_ more
  · intro t label h
    refine (step_effect platform t label).keepsReceipts (P := fun u =>
      (Sys.after platform labels).store.toolInvocations.Evolves ToolInvocation.Later
          u.toolInvocations ∧
        (Sys.after platform labels).store.toolReceipts.Evolves Eq u.toolReceipts) ?_ h
    intro u u' change kept
    obtain ⟨invocations, receipts⟩ := change.later
    exact ⟨Registry.Evolves.trans (R := ToolInvocation.Later) ToolInvocation.Later.trans kept.1
      invocations, Registry.Evolves.trans (R := Eq) Eq.trans kept.2 receipts⟩
  · exact ⟨.refl (R := ToolInvocation.Later) (fun _ => .same) _, .refl (R := Eq) (fun _ => rfl) _⟩

/-- The invocations and the receipts of a state, and what becomes of them. -/
structure ReceiptHistory (s later : RuntimeStore) : Prop where
  /-- A receipt is that of a stored invocation, as it is stored. -/
  stored : ∀ r ∈ s.toolReceipts.values,
    s.toolInvocations.get? r.invocation.id = some r.invocation
  running : ∀ i ∈ s.toolInvocations.values, i.status = .running ↔
    ∀ r ∈ s.toolReceipts.values, r.invocation.id ≠ i.id
  ended : ∀ i ∈ s.toolInvocations.values, i.status ≠ .running →
    ∃! r, r ∈ s.toolReceipts.values ∧ r.invocation = i
  /-- No receipt is changed or removed. -/
  receipts : s.toolReceipts.Evolves Eq later.toolReceipts
  /-- No invocation is removed, and none is changed but by its end. -/
  invocations : s.toolInvocations.Evolves ToolInvocation.Later later.toolInvocations

/-- Every invocation runs until its one receipt is stored, and nothing changes after that. -/
theorem receipt_history (platform : Platform) (labels more : List Label) :
    ReceiptHistory (Sys.after platform labels).store
      (Sys.after platform (labels ++ more)).store := by
  have agree := ReceiptsAgree.after platform labels
  obtain ⟨invocations, receipts⟩ := receipts_later platform labels more
  have alone : ∀ i ∈ (Sys.after platform labels).store.toolInvocations.values,
      i.status ≠ .running → ∃! r,
        r ∈ (Sys.after platform labels).store.toolReceipts.values ∧ r.invocation = i := by
    intro i mem settled
    obtain ⟨r, filed, same⟩ := agree.ended i mem settled
    refine ⟨r, ⟨filed, same⟩, ?_⟩
    rintro other ⟨filed', same'⟩
    exact agree.single other filed' r filed (by rw [same, same'])
  refine ⟨agree.stored, ?_, alone, receipts, invocations⟩
  intro i mem
  constructor
  · intro running r filed same
    have stored := agree.stored r filed
    rw [same] at stored
    have here : (Sys.after platform labels).store.toolInvocations.get? i.id = some i :=
      Registry.get?_of_mem_values mem
    obtain rfl := Option.some.inj (here.symm.trans stored)
    exact r.valid.terminal running
  · intro none
    by_contra settled
    obtain ⟨r, ⟨filed, rfl⟩, -⟩ := alone i mem settled
    exact none r filed rfl

end History

end AgentCompanyOS.Runtime
