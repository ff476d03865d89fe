import AgentCompanyOS.Runtime.Calls

/-!
# The authority of an executed call

An invariant of the store ties the invocation table to the governed records: one
invocation for each action, every claimed record has its invocation, and every
invocation that a review was needed for has its claimed record (`Claims`). With the
invariant of the pool and the log (`Entries`) it says when an executor is entered.
-/

set_option autoImplicit false

namespace AgentCompanyOS.Runtime

open Foundation Foundation.Txn Domain

/-! ## Invocations and their records -/

/-- An invocation as it was claimed: without the end that a receipt gives it. -/
def ToolInvocation.claimFields (i : ToolInvocation) : InvocationFields :=
  { i.toInvocationFields with
    status := .running, endedAt := none, errorCode := none, version := .initial }

/-- The claimed calls of a store, in the order of their claims. -/
def RuntimeStore.claims (s : RuntimeStore) : List InvocationFields :=
  s.toolInvocations.values.map ToolInvocation.claimFields

/-- A call that needs a governed record. -/
def InvocationFields.consequential (f : InvocationFields) : Prop :=
  f.toolVersion.definition.risk ≠ .readOnly ∨ f.validatedInput.isFixtureMessage = true

/-- A record and the call that claimed it are the same call, and the fingerprint of the
intent is that of the call. -/
structure ClaimedBy (platform : Platform) (record : GovernedAction) (f : InvocationFields) :
    Prop where
  claim : record.invocationId = some f.id
  call : record.intent.workspaceId = f.workspaceId ∧ record.intent.runId = f.runId ∧
    record.intent.actionId = f.actionId
  tool : record.intent.tool = f.toolVersion
  input : record.intent.argumentsJson = inputJson f.validatedInput
  digest : fingerprint platform f.workspaceId f.runId f.actionId f.toolVersion
    (inputJson f.validatedInput) = .ok record.intent.fingerprint

/-- The invocation table and the governed records agree. -/
structure Claims (platform : Platform) (s : RuntimeStore) : Prop where
  actions : (s.claims.map InvocationFields.actionId).Nodup
  records : ∀ g ∈ s.governed.values, g.invocationId ≠ none →
    ∃ f ∈ s.claims, ClaimedBy platform g f
  invocations : ∀ f ∈ s.claims, f.consequential → ∃ g ∈ s.governed.values, ClaimedBy platform g f

variable {platform : Platform}

theorem ClaimedBy.of_kept {old record : GovernedAction} {f : InvocationFields}
    (intent : record.intent = old.intent) (kept : record.invocationId = old.invocationId)
    (h : ClaimedBy platform old f) : ClaimedBy platform record f where
  claim := kept.trans h.claim
  call := intent ▸ h.call
  tool := intent ▸ h.tool
  input := intent ▸ h.input
  digest := intent ▸ h.digest

theorem Claims.empty : Claims platform .empty :=
  ⟨List.nodup_nil, by simp [RuntimeStore.empty], by simp [RuntimeStore.empty, RuntimeStore.claims]⟩

/-- What does not touch the two tables keeps them in agreement. -/
theorem Claims.of_same {s s' : RuntimeStore} (h : Claims platform s)
    (claims : s'.claims = s.claims) (governed : s'.governed = s.governed) :
    Claims platform s' := by
  obtain ⟨a, r, i⟩ := h
  exact ⟨by rwa [claims], by rwa [governed, claims], by rwa [governed, claims]⟩

/-- A new record has no claim yet. -/
theorem Claims.prepare {s : RuntimeStore} (h : Claims platform s) {record : GovernedAction}
    (absent : s.governed.get? record.intent.id = none) (unclaimed : record.invocationId = none) :
    Claims platform { s with governed := s.governed.put record } := by
  have values : (s.governed.put record).values = s.governed.values ++ [record] :=
    Registry.values_put_of_absent absent
  refine ⟨h.actions, fun g hg claimed => ?_, fun f hf consequential => ?_⟩
  · replace hg : g ∈ (s.governed.put record).values := hg
    rw [values] at hg
    rcases List.mem_append.mp hg with hg | hg
    · exact h.records g hg claimed
    · rw [List.mem_singleton.mp hg] at claimed
      exact (claimed unclaimed).elim
  · obtain ⟨g, hg, claimed⟩ := h.invocations f hf consequential
    exact ⟨g, by rw [values]; exact List.mem_append_left _ hg, claimed⟩

/-- A stored record under the key of another one is that one. -/
theorem governed_unique {s : RuntimeStore} {g old : GovernedAction} {id : ActionIntentId}
    (hg : g ∈ s.governed.values) (key : g.intent.id = id)
    (present : s.governed.get? id = some old) : g = old := by
  subst key
  exact Option.some.inj ((Registry.get?_of_mem_values hg).symm.trans present)

/-- A reviewed record keeps its claim. -/
theorem Claims.review {s : RuntimeStore} (h : Claims platform s) {old record : GovernedAction}
    (present : s.governed.get? record.intent.id = some old) (history : governedHistory old record)
    (kept : keepsClaim old record) :
    Claims platform { s with governed := s.governed.put record } := by
  have mem := Registry.mem_values_of_get? present
  refine ⟨h.actions, fun g hg claimed => ?_, fun f hf consequential => ?_⟩
  · rcases Registry.mem_values_put.mp hg with rfl | ⟨hg, -⟩
    · obtain ⟨f, hf, by'⟩ := h.records old mem (kept.1 ▸ claimed)
      exact ⟨f, hf, by'.of_kept history.1 kept.1⟩
    · exact h.records g hg claimed
  · obtain ⟨g, hg, by'⟩ := h.invocations f hf consequential
    by_cases same : g.intent.id = record.intent.id
    · obtain rfl := governed_unique hg same present
      exact ⟨record, Registry.mem_values_put.mpr (.inl rfl), by'.of_kept history.1 kept.1⟩
    · exact ⟨g, Registry.mem_values_put.mpr (.inr ⟨hg, same⟩), by'⟩

/-- A receipt ends an invocation; the call that was claimed stays. -/
theorem claims_receipt {s : RuntimeStore} {previous : ToolInvocation} {receipt : ToolReceipt}
    (h : ReceiptStorable s previous receipt) :
    { s with
      toolInvocations := s.toolInvocations.put receipt.invocation
      toolReceipts := s.toolReceipts.put receipt : RuntimeStore }.claims = s.claims := by
  refine Registry.map_values_put_of_present h.present ?_
  obtain ⟨at', fields⟩ := h.finished
  unfold ToolInvocation.claimFields
  rw [fields]

/-- No write but a claim or an invocation disturbs the agreement. -/
theorem Claims.write {s s' : RuntimeStore} (h : Claims platform s)
    (write : Write ordinaryKinds s s') : Claims platform s' := by
  cases write with
  | prepare allowed _ record absent savable =>
      have initial := savable.history
      rw [absent] at initial
      exact h.prepare absent initial.2.2.2.2.2.1
  | review allowed _ old record present history kept => exact h.review present history kept
  | receipt allowed _ previous receipt storable => exact h.of_same (claims_receipt storable) rfl
  | claim allowed _ old record present history => simp at allowed
  | invocation allowed _ run action i foundRun foundAction new => simp at allowed
  | domain command allowed _ d served => exact h.of_same rfl rfl
  | start allowed _ run startable => exact h.of_same rfl rfl
  | run allowed _ previous run present evolved transitions => exact h.of_same rfl rfl
  | audit allowed _ a => exact h.of_same rfl rfl
  | action allowed _ action absent => exact h.of_same rfl rfl
  | policy allowed _ policy => exact h.of_same rfl rfl
  | config allowed _ c tools => exact h.of_same rfl rfl
  | knowledge allowed _ k => exact h.of_same rfl rfl

/-- Reviewing a call keeps the agreement. -/
theorem Claims.writes {s s' : RuntimeStore} (h : Claims platform s)
    (moved : Relation.ReflTransGen (Write ordinaryKinds) s s') : Claims platform s' :=
  writes_induct (fun write h => h.write write) moved h

variable {host : Host} {runId : AgentRunId} {expected : Version} {w v w' : World RuntimeStore}
  {d : Dispatch} {governed : Option GovernedAction}

/-- The store that a claim was granted in satisfies what the store before it does. -/
theorem Dispatched.claims_base
    (facts : Dispatched platform host runId expected w v w' d governed)
    (h : Claims platform w.store) : Claims platform v.store :=
  h.writes (widen (by simp) facts.review)

/-- A claim that dispatches adds its own call. -/
theorem Dispatched.claims_eq
    (facts : Dispatched platform host runId expected w v w' d governed) :
    w'.store.claims = v.store.claims ++ [d.invocation.claimFields] := by
  show w'.store.toolInvocations.values.map _ = _
  rw [facts.claimed.invocations, Registry.values_put_of_absent facts.claimed.absent,
    List.map_append]
  rfl

/-- The record of a granted call agrees with the call. -/
theorem Dispatched.claimedBy (facts : Dispatched platform host runId expected w v w' d governed)
    {record claimed : GovernedAction}
    (prepared : Prepared platform v.store d.run d.action d.invocation.toolVersion
      d.invocation.validatedInput record)
    (fields : claimed.toGovernedFields = record.claimedBy d.invocation.id) :
    ClaimedBy platform claimed d.invocation.claimFields := by
  have intent : claimed.intent = record.intent := (congrArg GovernedFields.intent fields).trans rfl
  obtain ⟨actionId, runId, workspaceId⟩ := facts.claimed.binding
  obtain ⟨run, action, tool, -, input⟩ := prepared.call
  exact {
    claim := congrArg GovernedFields.invocationId fields
    call := by
      rw [intent]
      exact ⟨prepared.workspace.trans workspaceId.symm, run.trans runId.symm,
        action.trans actionId.symm⟩
    tool := intent ▸ tool
    input := intent ▸ input
    digest := by
      show fingerprint platform d.invocation.workspaceId d.invocation.runId
        d.invocation.actionId _ _ = _
      rw [intent, workspaceId, runId, actionId]
      exact prepared.digest }

/-- A claim that dispatches keeps the agreement: its action was unused, and its record,
if it needs one, had no claim. -/
theorem Claims.dispatched (h : Claims platform w.store)
    (facts : Dispatched platform host runId expected w v w' d governed) :
    Claims platform w'.store := by
  have base := facts.claims_base h
  have claims := facts.claims_eq
  have actions : (w'.store.claims.map InvocationFields.actionId).Nodup := by
    rw [claims, List.map_append, List.nodup_append]
    refine ⟨base.actions, List.nodup_singleton _, ?_⟩
    rintro a ha b hb rfl
    obtain ⟨f, hf, rfl⟩ := List.mem_map.mp ha
    obtain ⟨i, hi, rfl⟩ := List.mem_map.mp hf
    refine facts.claimed.unused i hi ?_
    exact (List.mem_singleton.mp hb).trans facts.claimed.binding.1
  have recorded := facts.claimed.governed
  have grant := facts.grant
  cases grant with
  | reading risk message same =>
      refine ⟨actions, fun g hg claimed => ?_, fun f hf consequential => ?_⟩
      · rw [show w'.store.governed = v.store.governed from recorded] at hg
        obtain ⟨f, hf, by'⟩ := base.records g hg claimed
        exact ⟨f, by rw [claims]; exact List.mem_append_left _ hf, by'⟩
      · rw [show w'.store.governed = v.store.governed from recorded]
        rw [claims] at hf
        rcases List.mem_append.mp hf with hf | hf
        · exact base.invocations f hf consequential
        · rw [List.mem_singleton.mp hf] at consequential
          rcases consequential with risky | isMessage
          · exact (risky risk).elim
          · exact (Bool.eq_false_iff.mp message isMessage).elim
  | reviewed record granted =>
      obtain ⟨claimed, fields, after⟩ := recorded
      obtain ⟨n, -, -, allowed⟩ := granted.allowed
      have executable := GovernedAction.executable_of_allowedAt allowed
      have by' := facts.claimedBy granted.prepared fields
      have intent : claimed.intent = record.intent :=
        (congrArg GovernedFields.intent fields).trans rfl
      refine ⟨actions, fun g hg hasClaim => ?_, fun f hf consequential => ?_⟩
      · rw [after] at hg
        rcases Registry.mem_values_put.mp hg with rfl | ⟨hg, -⟩
        · exact ⟨_, by rw [claims]; exact List.mem_append_right _ (List.mem_singleton_self _), by'⟩
        · obtain ⟨f, hf, old⟩ := base.records g hg hasClaim
          exact ⟨f, by rw [claims]; exact List.mem_append_left _ hf, old⟩
      · rw [after]
        rw [claims] at hf
        rcases List.mem_append.mp hf with hf | hf
        · obtain ⟨g, hg, old⟩ := base.invocations f hf consequential
          refine ⟨g, Registry.mem_values_put.mpr (.inr ⟨hg, fun same => ?_⟩), old⟩
          have key : g.intent.id = record.intent.id :=
            (show g.intent.id = claimed.intent.id from same).trans (by rw [intent])
          have here := governed_unique hg key granted.prepared.stored
          have claim := old.claim
          rw [here, executable.unclaimed] at claim
          cases claim
        · rw [List.mem_singleton.mp hf]
          exact ⟨claimed, Registry.mem_values_put.mpr (.inl rfl), by'⟩

/-- Operational changes leave both tables alone. -/
theorem Claims.operated {s s' : RuntimeStore} (h : Claims platform s) (change : Operated s s') :
    Claims platform s' := by
  obtain ⟨o, rfl⟩ := change.tables
  exact h.of_same rfl rfl

/-- Every step of the system keeps the agreement. -/
theorem Claims.step {s : Sys} (h : Claims platform s.store) (label : Label) :
    Claims platform (s.step platform label).store := by
  cases step_effect platform s label with
  | wrote later moved => exact h.writes moved
  | dispatched later host runId expected d governed v facts => exact h.dispatched facts
  | operated later change => exact h.operated change

/-! ## Entries -/

/-- The call that a log entry says was handed to an executor. -/
def Entry.entered? : Entry → Option InvocationFields
  | .entered i => some i.claimFields
  | _ => none

/-- The call that a point is about to hand to an executor. -/
def Point.entering? : Point → Option InvocationFields
  | .entering d => some d.invocation.claimFields
  | _ => none

/-- The calls that executors were entered with, in the order of the entries. -/
def Sys.entered (s : Sys) : List InvocationFields := s.log.filterMap Entry.entered?

/-- The calls that wait for their executor. -/
def waiting (calls : List Call) : List InvocationFields :=
  calls.filterMap fun call => call.point.entering?

/-- Every entry that has happened or is about to happen. -/
def Sys.tickets (s : Sys) : List InvocationFields := s.entered ++ waiting s.calls

theorem entering?_of_dispatch {point : Point} (h : point.dispatch? = none) :
    point.entering? = none := by
  cases point with
  | entering d => cases h
  | _ => rfl

theorem entered?_of_not_mem {entries : List Entry} (h : ∀ i, .entered i ∉ entries) :
    entries.filterMap Entry.entered? = [] := by
  refine List.filterMap_eq_nil_iff.mpr fun e he => ?_
  cases e with
  | entered i => exact (h i he).elim
  | looked call key row => rfl
  | answered call case => rfl

/-- The waiting calls after a step of one call, around that call. -/
theorem waiting_moveCall {calls : List Call} {call : Call} (distinct : (calls.map Call.id).Nodup)
    (present : call ∈ calls) (next : Option (Point × List Frame)) :
    ∃ before after, waiting calls = before ++ call.point.entering?.toList ++ after ∧
      waiting (moveCall calls call next) =
        before ++ (next.bind fun p => p.1.entering?).toList ++ after := by
  obtain ⟨before, after, split, moved⟩ := moveCall_split distinct present next
  refine ⟨waiting before, waiting after, ?_, ?_⟩
  · rw [split]
    unfold waiting
    rw [List.filterMap_append, List.append_assoc]
    cases h : call.point.entering? <;> simp [h]
  · rw [moved]
    unfold waiting
    rw [List.filterMap_append, List.filterMap_append]
    cases next with
    | none => simp
    | some p => cases h : p.1.entering? <;> simp [Call.moved, h]

/-- A step adds a ticket only by a claim that dispatches. -/
theorem tickets_moved {s : Sys} (numbered : s.Numbered) {call : Call} (present : call ∈ s.calls)
    {a : Advance} (moved : Moved platform s.shared call a) :
    (s.moved call a).tickets.Subperm s.tickets ∨
      ∃ workspaceId runId action expected d w,
        call.point = .invoke workspaceId runId action expected ∧
        invokeClaim platform call.host workspaceId runId action expected s.shared.world =
          .ok (.dispatched d) w ∧
        a.shared = { s.shared with world := w } ∧
        (s.moved call a).tickets.Perm (s.tickets ++ [d.invocation.claimFields]) := by
  obtain ⟨before, after, old, new⟩ := waiting_moveCall numbered.distinct present a.next
  have tickets : (s.moved call a).tickets =
      s.entered ++ a.entries.filterMap Entry.entered? ++
        waiting (moveCall s.calls call a.next) := by
    unfold Sys.tickets Sys.entered Sys.moved
    rw [List.filterMap_append]
  have current : s.tickets = s.entered ++ waiting s.calls := rfl
  rw [tickets, current, old, new]
  cases moved with
  | outside next entries =>
      refine .inl (List.Sublist.subperm ?_)
      rw [entered?_of_not_mem entries, List.append_nil]
      have gone : (a.next.bind fun p => p.1.entering?) = none := by
        cases h : a.next with
        | none => rfl
        | some p => exact entering?_of_dispatch (next p h)
      rw [gone]
      simp
  | within d point before' next after' entering entries =>
      refine .inl (List.Sublist.subperm ?_)
      rw [entries, next]
      cases h : point.entering? with
      | none => simp [h]
      | some f =>
          have here : point = .entering d := by
            cases point with
            | entering d' =>
                cases after'
                rfl
            | _ => cases h
          rw [entering here, here]
          simp
  | entered d before' same next entries =>
      refine .inl (List.Perm.subperm ?_)
      rw [entries, next, before']
      simp only [List.filterMap_cons, Entry.entered?, List.filterMap_nil, Point.entering?,
        Option.bind_some, Option.toList_some, Option.toList_none, List.append_nil,
        List.append_assoc]
      have middle : (before ++ d.invocation.claimFields :: after).Perm
          (d.invocation.claimFields :: (before ++ after)) := List.perm_middle
      exact List.Perm.append_left _ middle.symm
  | dispatched workspaceId runId action expected d w before' claim same next entries =>
      refine .inr ⟨workspaceId, runId, action, expected, d, w, before', claim, same, ?_⟩
      rw [entries, next, before']
      simp only [List.filterMap_nil, Point.entering?, Option.bind_some, Option.toList_some,
        Option.toList_none, List.append_nil, List.append_assoc]
      refine List.Perm.append_left _ (List.Perm.append_left _ ?_)
      exact List.perm_append_comm

/-- What a step does to the claimed calls. -/
inductive ClaimEffect (platform : Platform) (s s' : Sys) : Prop
  | kept (same : s'.store.claims = s.store.claims)
  | added (host : Host) (runId : AgentRunId) (expected : Version) (d : Dispatch)
      (governed : Option GovernedAction) (v : World RuntimeStore)
      (facts : Dispatched platform host runId expected s.shared.world v s'.shared.world d governed)

/-- Reviewing a call claims nothing. -/
theorem Dispatched.claims_before
    (facts : Dispatched platform host runId expected w v w' d governed) :
    v.store.claims = w.store.claims := by
  have base : v.store.toolInvocations = w.store.toolInvocations :=
    writes_frame (fun write => write.toolInvocations_eq (by simp) (by simp)) facts.review
  unfold RuntimeStore.claims
  rw [base]

/-- A claim that dispatches adds one claimed call. -/
theorem Dispatched.claims_grown
    (facts : Dispatched platform host runId expected w v w' d governed) :
    w'.store.claims = w.store.claims ++ [d.invocation.claimFields] :=
  facts.claims_before ▸ facts.claims_eq

theorem claims_effect (platform : Platform) (s : Sys) (label : Label) :
    ClaimEffect platform s (s.step platform label) := by
  cases step_effect platform s label with
  | wrote later moved =>
      have same : ∀ {t t'}, Write ordinaryKinds t t' → t'.claims = t.claims := ?_
      · exact .kept (writes_frame same moved)
      intro t t' write
      cases write with
      | receipt allowed t previous receipt storable => exact claims_receipt storable
      | invocation allowed t run action i foundRun foundAction new => simp at allowed
      | _ => rfl
  | dispatched later host runId expected d governed v facts =>
      exact .added host runId expected d governed v facts
  | operated later change =>
      obtain ⟨o, same⟩ := change.tables
      refine .kept ?_
      show (s.step platform label).shared.world.store.claims = _
      rw [same]
      rfl

/-- The claimed calls only grow. -/
theorem claims_step (platform : Platform) (s : Sys) (label : Label) :
    s.store.claims <+: (s.step platform label).store.claims := by
  cases claims_effect platform s label with
  | kept same => exact same ▸ List.prefix_rfl
  | added host runId expected d governed v facts =>
      exact ⟨_, facts.claims_grown.symm⟩

theorem Request.enter_entering (request : Request) : request.enter.1.entering? = none := by
  cases request <;> rfl

/-- Every ticket is for a claimed call of its own. -/
theorem tickets_step {s : Sys} (numbered : s.Numbered) (h : s.tickets.Subperm s.store.claims)
    (label : Label) :
    (s.step platform label).tickets.Subperm (s.step platform label).store.claims := by
  have grown := (claims_step platform s label).sublist.subperm
  -- Unless a claim dispatches, the tickets of the step are among those before it.
  suffices key : (s.step platform label).tickets.Subperm s.tickets ∨
      (s.step platform label).tickets.Subperm (s.step platform label).store.claims by
    rcases key with fewer | done
    · exact (fewer.trans h).trans grown
    · exact done
  cases label with
  | «open» host request =>
      refine .inl (List.Perm.subperm (List.Perm.of_eq ?_))
      show s.entered ++ waiting (s.calls ++ [⟨s.issued, host, request.enter.1, request.enter.2⟩]) =
        s.entered ++ waiting s.calls
      unfold waiting
      rw [List.filterMap_append]
      simp only [List.filterMap_cons, request.enter_entering, List.filterMap_nil, List.append_nil]
  | advance id input =>
      cases found : s.call? id with
      | none =>
          rw [Sys.step_unknown found]
          exact .inl (List.Subperm.refl _)
      | some call =>
          have stepped : s.step platform (.advance id input) =
              s.moved call (s.shared.advance platform call input) := by
            simp [Sys.step, found]
          have present := (Sys.call?_eq_some found).1
          rw [stepped]
          rcases tickets_moved numbered present
            (advance_moved platform s.shared call input) with fewer | dispatched
          · exact .inl fewer
          · obtain ⟨workspaceId, runId, action, expected, d, w, -, claim, same, perm⟩ := dispatched
            refine .inr ?_
            cases invokeClaim_eq_ok claim with
            | dispatched _ governed v sameAction facts =>
                have after : (s.moved call (s.shared.advance platform call input)).store.claims =
                    s.store.claims ++ [d.invocation.claimFields] := by
                  show (s.shared.advance platform call input).shared.world.store.claims = _
                  rw [same]
                  exact facts.claims_grown
                rw [after]
                exact perm.subperm.trans ((List.subperm_append_right _).mpr h)
  | drop id =>
      refine .inl (List.Sublist.subperm ?_)
      exact List.Sublist.append_left (List.filter_sublist.filterMap _) _
  | crash =>
      refine .inl (List.Sublist.subperm ?_)
      exact List.Sublist.append_left (List.nil_sublist _) _
  | command command => exact .inl (List.Subperm.refl _)
  | restore request =>
      refine .inl (List.Sublist.subperm ?_)
      show (s.restored request).tickets.Sublist s.tickets
      unfold Sys.restored
      split
      · exact List.Sublist.append_left (List.nil_sublist _) _
      · exact List.Sublist.refl _

end AgentCompanyOS.Runtime
