import AgentCompanyOS.Runtime.Authority

/-!
# Governed write safety

What holds of a consequential call in any run: the transaction that claims its record has
found the authority that the policy in force asks for, the claim comes before the
executor is entered, the executor is entered at most once, and the review of a claimed
record is closed.
-/

set_option autoImplicit false

namespace AgentCompanyOS.Runtime

open Foundation Foundation.Txn Domain

variable {platform : Platform}

/-! ## The claim of a record -/

/-- One step of the system claims `record` for the call `f`: what its transaction has
found in the store. -/
structure ClaimsRecord (platform : Platform) (s s' : Sys) (f : InvocationFields)
    (record : GovernedAction) : Prop where
  stored : s'.store.governed.get? record.intent.id = some record
  call : ClaimedBy platform record f
  invocation : f ∉ s.store.claims ∧ f ∈ s'.store.claims
  unclaimed : ∀ old, s.store.governed.get? record.intent.id = some old → old.invocationId = none
  live : record.cancelled = false
  inTime : ∃ n, s.shared.world.reads ≤ n ∧ n < s'.shared.world.reads ∧
    platform.clock n < record.intent.expiresAt
  approval : record.intent.effect = .allow ∨ record.intent.effect = .required ∧
    ∃ d reviewer, record.decisions = [d] ∧ d.kind = .approved ∧ d.reviewer = some reviewer ∧
      reviewer ∈ record.intent.policy.reviewers
  policy : s.store.approvalPolicies.get? f.workspaceId = some record.intent.policy

/-- Reviewing a call changes no policy. -/
theorem Dispatched.policies_before {host : Host} {runId : AgentRunId} {expected : Version}
    {w v w' : World RuntimeStore} {d : Dispatch} {governed : Option GovernedAction}
    (facts : Dispatched platform host runId expected w v w' d governed) :
    v.store.approvalPolicies = w.store.approvalPolicies :=
  writes_frame (fun write => write.approvalPolicies_eq (by simp)) facts.review

/-- Reviewing a call leaves a record that it finds in the store as it is. -/
theorem Dispatched.governed_before {host : Host} {runId : AgentRunId} {expected : Version}
    {w v w' : World RuntimeStore} {d : Dispatch} {governed : Option GovernedAction}
    (facts : Dispatched platform host runId expected w v w' d governed) {id : ActionIntentId}
    {old : GovernedAction} (stored : w.store.governed.get? id = some old) :
    v.store.governed.get? id = some old := by
  refine writes_induct (P := fun t => t.governed.get? id = some old) (fun write h => ?_)
    facts.review stored
  cases write with
  | prepare allowed t record absent savable =>
      refine (Registry.get?_put_ne _ fun same => ?_).trans h
      rw [show record.intent.id = id from same, h] at absent
      cases absent
  | audit allowed t a => exact h
  | domain command allowed => simpa using commandKind_mem allowed
  | start allowed => simp at allowed
  | run allowed => simp at allowed
  | action allowed => simp at allowed
  | review allowed => simp at allowed
  | claim allowed => simp at allowed
  | invocation allowed => simp at allowed
  | receipt allowed => simp at allowed
  | policy allowed => simp at allowed
  | config allowed => simp at allowed
  | knowledge allowed => simp at allowed

/-- The claim of a consequential call claims its record. -/
theorem Dispatched.claimsRecord {s s' : Sys} {host : Host} {runId : AgentRunId}
    {expected : Version} {d : Dispatch} {governed : Option GovernedAction}
    {v : World RuntimeStore}
    (facts : Dispatched platform host runId expected s.shared.world v s'.shared.world d governed)
    (agreed : Claims platform s.store) (consequential : d.invocation.claimFields.consequential) :
    ∃ record, ClaimsRecord platform s s' d.invocation.claimFields record := by
  have recorded := facts.claimed.governed
  have grant := facts.grant
  cases grant with
  | reading risk message same =>
      rcases consequential with risky | isMessage
      · exact (risky risk).elim
      · exact (Bool.eq_false_iff.mp message isMessage).elim
  | reviewed record granted =>
      obtain ⟨claimed, fields, after⟩ := recorded
      obtain ⟨n, lower, upper, allowed⟩ := granted.allowed
      have executable := GovernedAction.executable_of_allowedAt allowed
      have intent : claimed.intent = record.intent :=
        (congrArg GovernedFields.intent fields).trans rfl
      have fresh : d.invocation.claimFields ∉ s.store.claims := fun present => by
        have nodup := (agreed.dispatched facts).actions
        rw [facts.claims_grown, List.map_append, List.nodup_append] at nodup
        exact nodup.2.2 _ (List.mem_map_of_mem present) _ (List.mem_singleton_self _) rfl
      refine ⟨claimed, {
        stored := by
          rw [show s'.store.governed = v.store.governed.put claimed from after]
          exact Registry.get?_put_self _ _
        call := facts.claimedBy granted.prepared fields
        invocation := ⟨fresh, by
          rw [show s'.store.claims = s.store.claims ++ _ from facts.claims_grown]
          exact List.mem_append_right _ (List.mem_singleton_self _)⟩
        unclaimed := fun old stored => ?_
        live := (congrArg GovernedFields.cancelled fields).trans executable.live
        inTime := ⟨n, lower, Nat.lt_of_lt_of_le upper facts.later, intent ▸ executable.inTime⟩
        approval := ?_
        policy := ?_ }⟩
      · have here := facts.governed_before stored
        rw [intent, granted.prepared.stored] at here
        rw [← Option.some.inj here]
        exact executable.unclaimed
      · have decisions : claimed.decisions = record.decisions :=
          (congrArg GovernedFields.decisions fields).trans rfl
        rw [intent, decisions]
        rcases executable.approval with allow | ⟨required, decision, last, approved⟩
        · exact .inl allow
        · obtain ⟨only, reviewer, named, listed⟩ := GovernedAction.approved_only last approved
          exact .inr ⟨required, decision, reviewer, only, approved, named, listed⟩
      · have workspace : d.invocation.claimFields.workspaceId = d.run.workspaceId :=
          facts.claimed.binding.2.2
        have policy := granted.prepared.policy
        rw [facts.policies_before] at policy
        rw [workspace, intent]
        exact policy

/-! ## After the claim -/

/-- A later record of the same call: only its end is still to come. -/
structure Closed (old record : GovernedAction) : Prop where
  intent : record.intent = old.intent
  claim : record.invocationId = old.invocationId
  decisions : record.decisions = old.decisions
  cancelled : record.cancelled = old.cancelled

/-- A claimed record is still there, with nothing of its review changed. -/
def KeepsClaimed (s s' : RuntimeStore) : Prop :=
  ∀ id old, s.governed.get? id = some old → old.invocationId ≠ none →
    ∃ record, s'.governed.get? id = some record ∧ Closed old record

theorem KeepsClaimed.of_same {s s' : RuntimeStore} (same : s'.governed = s.governed) :
    KeepsClaimed s s' := fun _ old stored _ => ⟨old, by rw [same]; exact stored, rfl, rfl, rfl, rfl⟩

theorem KeepsClaimed.trans {s s' s'' : RuntimeStore} (h : KeepsClaimed s s')
    (h' : KeepsClaimed s' s'') : KeepsClaimed s s'' := by
  intro id old stored claimed
  obtain ⟨record, found, closed⟩ := h id old stored claimed
  obtain ⟨later, found', closed'⟩ := h' id record found (closed.claim ▸ claimed)
  exact ⟨later, found', closed'.intent.trans closed.intent, closed'.claim.trans closed.claim,
    closed'.decisions.trans closed.decisions, closed'.cancelled.trans closed.cancelled⟩

/-- A record put in the place of an unclaimed one, or of one that it closes. -/
theorem KeepsClaimed.put {s s' : RuntimeStore} {record : GovernedAction}
    (after : s'.governed = s.governed.put record)
    (closed : ∀ old, s.governed.get? record.intent.id = some old → old.invocationId ≠ none →
      Closed old record) : KeepsClaimed s s' := by
  intro id old stored claimed
  by_cases same : record.intent.id = id
  · subst same
    exact ⟨record, by rw [after]; exact Registry.get?_put_self _ _, closed old stored claimed⟩
  · refine ⟨old, ?_, rfl, rfl, rfl, rfl⟩
    rw [after]
    exact (Registry.get?_put_ne s.governed (x := record) same).trans stored

theorem KeepsClaimed.write {s s' : RuntimeStore} (write : Write ordinaryKinds s s') :
    KeepsClaimed s s' := by
  cases write with
  | prepare allowed _ record absent savable =>
      refine .put rfl fun old stored _ => ?_
      rw [absent] at stored
      cases stored
  | review allowed _ old record present history kept =>
      refine .put rfl fun found stored claimed => ?_
      obtain rfl := Option.some.inj (stored.symm.trans present)
      exact ⟨history.1, kept.1, (kept.2 claimed).1, (kept.2 claimed).2⟩
  | claim allowed => simp at allowed
  | _ => exact .of_same rfl

theorem KeepsClaimed.step (platform : Platform) (s : Sys) (label : Label) :
    KeepsClaimed s.store (s.step platform label).store := by
  cases step_effect platform s label with
  | wrote later moved =>
      exact writes_induct (P := KeepsClaimed s.store) (fun write h => h.trans (.write write)) moved
        (.of_same rfl)
  | dispatched later host runId expected d governed v facts =>
      have reviewed : KeepsClaimed s.store v.store := fun id old stored _ =>
        ⟨old, facts.governed_before stored, rfl, rfl, rfl, rfl⟩
      refine reviewed.trans ?_
      have recorded := facts.claimed.governed
      have grant := facts.grant
      cases grant with
      | reading risk message same => exact .of_same recorded
      | reviewed record granted =>
          obtain ⟨claimed, fields, after⟩ := recorded
          obtain ⟨n, -, -, allowed⟩ := granted.allowed
          refine .put after fun old stored hasClaim => ?_
          have intent : claimed.intent = record.intent :=
            (congrArg GovernedFields.intent fields).trans rfl
          rw [intent, granted.prepared.stored] at stored
          rw [← Option.some.inj stored] at hasClaim
          exact (hasClaim (GovernedAction.executable_of_allowedAt allowed).unclaimed).elim
  | operated later change =>
      obtain ⟨o, same⟩ := change.tables
      have governed := congrArg RuntimeStore.governed same
      exact .of_same governed

theorem KeepsClaimed.run (platform : Platform) (s : Sys) (labels : List Label) :
    KeepsClaimed s.store (Sys.run platform s labels).store :=
  Sys.run_keeps (P := fun t => KeepsClaimed s.store t.store)
    (fun t label h => h.trans (.step platform t label)) (.of_same rfl) labels

/-! ## Runs from an empty database -/

/-- The system after a run from an empty database. -/
abbrev Sys.after (platform : Platform) (labels : List Label) : Sys :=
  Sys.run platform .empty labels

theorem Sys.after_concat (platform : Platform) (labels : List Label) (label : Label) :
    Sys.after platform (labels ++ [label]) = (Sys.after platform labels).step platform label := by
  rw [Sys.after, Sys.run_append]
  rfl

theorem Claims.after (platform : Platform) (labels : List Label) :
    Claims platform (Sys.after platform labels).store :=
  Sys.run_keeps (P := fun s => Claims platform s.store)
    (fun _ label h => h.step label) .empty labels

/-- Every ticket of a run is for a claimed call of its own. -/
theorem tickets_after (platform : Platform) (labels : List Label) :
    (Sys.after platform labels).Numbered ∧
      (Sys.after platform labels).tickets.Subperm (Sys.after platform labels).store.claims :=
  Sys.run_keeps (P := fun s => s.Numbered ∧ s.tickets.Subperm s.store.claims)
    (fun _ label h => ⟨h.1.step platform label, tickets_step h.1 h.2 label⟩)
    ⟨.empty, List.nil_subperm⟩ labels

/-- Every consequential call was claimed by some step, and its record with it. -/
theorem claim_origin {labels : List Label} {f : InvocationFields}
    (claimed : f ∈ (Sys.after platform labels).store.claims) (consequential : f.consequential) :
    ∃ before label after, labels = before ++ label :: after ∧ ∃ record,
      ClaimsRecord platform (Sys.after platform before)
        (Sys.after platform (before ++ [label])) f record := by
  induction labels using List.reverseRecOn with
  | nil => simp [Sys.after, RuntimeStore.claims, Sys.empty, RuntimeStore.empty] at claimed
  | append_singleton labels label ih =>
      have earlier : f ∈ (Sys.after platform labels).store.claims →
          ∃ before label' after, labels ++ [label] = before ++ label' :: after ∧ ∃ record,
            ClaimsRecord platform (Sys.after platform before)
              (Sys.after platform (before ++ [label'])) f record := fun present => by
        obtain ⟨before, label', after, rfl, found⟩ := ih present
        exact ⟨before, label', after ++ [label], by simp, found⟩
      rw [Sys.after_concat] at claimed
      cases claims_effect platform (Sys.after platform labels) label with
      | kept same => exact earlier (same ▸ claimed)
      | added host runId expected d governed v facts =>
          rw [show ((Sys.after platform labels).step platform label).store.claims = _ from
            facts.claims_grown] at claimed
          rcases List.mem_append.mp claimed with present | here
          · exact earlier present
          · obtain rfl := List.mem_singleton.mp here
            refine ⟨labels, label, [], rfl, ?_⟩
            rw [Sys.after_concat]
            exact facts.claimsRecord (.after platform labels) consequential

/-! ## The safety of governed writes -/

/-- The executor entries for one action. -/
def Sys.entriesOf (s : Sys) (actionId : ActionId) : List InvocationFields :=
  s.entered.filter (·.actionId = actionId)

/-- The executor entries for one intent: those of the call that its record names. -/
def Sys.entriesFor (s : Sys) (intentId : ActionIntentId) : List InvocationFields :=
  s.entered.filter fun f => (s.store.governed.get? intentId).any (·.invocationId = some f.id)

theorem length_filter_le_one {α κ : Type} {key : α → κ} {p : α → Bool} {xs : List α}
    (distinct : (xs.map key).Nodup)
    (one : ∀ x ∈ xs, ∀ y ∈ xs, p x = true → p y = true → key x = key y) :
    (xs.filter p).length ≤ 1 := by
  have nodup : ((xs.filter p).map key).Nodup := distinct.sublist (List.filter_sublist.map key)
  cases h : xs.filter p with
  | nil => simp
  | cons a rest =>
      cases rest with
      | nil => simp
      | cons b more =>
          have ha := List.mem_filter.mp (h ▸ List.mem_cons_self : a ∈ xs.filter p)
          have hb := List.mem_filter.mp
            (h ▸ List.mem_cons_of_mem _ List.mem_cons_self : b ∈ xs.filter p)
          rw [h] at nodup
          exact absurd (one a ha.1 b hb.1 ha.2 hb.2)
            (fun same => (List.nodup_cons.mp nodup).1 (by simp [same]))

/-- Invocations are stored under distinct identifiers. -/
theorem claims_distinct (s : RuntimeStore) : (s.claims.map InvocationFields.id).Nodup := by
  have keys : s.claims.map InvocationFields.id =
      s.toolInvocations.values.map ToolInvocation.key := by
    rw [RuntimeStore.claims, List.map_map]
    rfl
  rw [keys]
  exact s.toolInvocations.nodup

theorem entered_subperm (platform : Platform) (labels : List Label) :
    (Sys.after platform labels).entered.Subperm (Sys.after platform labels).store.claims :=
  (List.sublist_append_left _ _).subperm.trans (tickets_after platform labels).2

theorem entered_nodup {κ : Type} {key : InvocationFields → κ} {labels : List Label}
    (distinct : ((Sys.after platform labels).store.claims.map key).Nodup) :
    ((Sys.after platform labels).entered.map key).Nodup := by
  obtain ⟨entries, perm, sub⟩ := entered_subperm platform labels
  exact (perm.map key).nodup_iff.mp (distinct.sublist (sub.map key))

/-- A step that enters an executor enters it for a call that waits for it. -/
theorem entered_moved {s : Sys} {call : Call} (present : call ∈ s.calls) {a : Advance}
    (moved : Moved platform s.shared call a) {f : InvocationFields}
    (now : f ∈ (s.moved call a).entered) : f ∈ s.tickets := by
  have entered : (s.moved call a).entered = s.entered ++ a.entries.filterMap Entry.entered? :=
    List.filterMap_append
  have old : ∀ {f}, f ∈ s.entered → f ∈ s.tickets := fun h => List.mem_append_left _ h
  rw [entered] at now
  cases moved with
  | outside next entries =>
      rw [entered?_of_not_mem entries, List.append_nil] at now
      exact old now
  | within d point before next after entering entries =>
      rw [entries, List.filterMap_nil, List.append_nil] at now
      exact old now
  | dispatched workspaceId runId action expected d w before claim same next entries =>
      rw [entries, List.filterMap_nil, List.append_nil] at now
      exact old now
  | entered d before same next entries =>
      rw [entries] at now
      rcases List.mem_append.mp now with now | now
      · exact old now
      · obtain rfl := List.mem_singleton.mp now
        exact List.mem_append_right _ (List.mem_filterMap.mpr ⟨call, present, by rw [before]; rfl⟩)

/-- An executor that is entered in a step is entered for a call that was claimed before. -/
theorem entered_claimed {labels : List Label} {label : Label} {f : InvocationFields}
    (now : f ∈ (Sys.after platform (labels ++ [label])).entered)
    (notYet : f ∉ (Sys.after platform labels).entered) :
    f ∈ (Sys.after platform labels).store.claims := by
  refine (tickets_after platform labels).2.subset ?_
  rw [Sys.after_concat] at now
  cases label with
  | advance id input =>
      unfold Sys.step at now
      dsimp only at now
      split at now
      · next call found =>
          exact entered_moved (Sys.call?_eq_some found).1
            (advance_moved platform _ call input) now
      · exact (notYet now).elim
  | restore request =>
      refine (notYet ?_).elim
      replace now : f ∈ ((Sys.after platform labels).restored request).entered := now
      unfold Sys.restored at now
      split at now <;> exact now
  | _ => exact (notYet now).elim

/-- A consequential call is entered at most once for its action and for its intent. The
step that enters it comes after the step that claims its record, where the authority
was in force, and no later step changes the review of the record. -/
theorem governed_write_safety (platform : Platform) :
    (∀ labels actionId, ((Sys.after platform labels).entriesOf actionId).length ≤ 1) ∧
    (∀ labels intentId, ((Sys.after platform labels).entriesFor intentId).length ≤ 1) ∧
    (∀ labels label f, f.validatedInput.isFixtureMessage = true →
      f ∈ (Sys.after platform (labels ++ [label])).entered →
      f ∉ (Sys.after platform labels).entered →
      ∃ before claim between record, labels = before ++ claim :: between ∧
        ClaimsRecord platform (Sys.after platform before)
          (Sys.after platform (before ++ [claim])) f record ∧
        ∀ later, ∃ record', Closed record record' ∧
          (Sys.after platform (before ++ claim :: later)).store.governed.get? record.intent.id =
            some record') := by
  refine ⟨fun labels actionId => ?_, fun labels intentId => ?_,
    fun labels label f message now notYet => ?_⟩
  · refine length_filter_le_one (entered_nodup (Claims.after platform labels).actions) ?_
    intro f _ g _ isF isG
    exact (of_decide_eq_true isF).trans (of_decide_eq_true isG).symm
  · refine length_filter_le_one (entered_nodup (claims_distinct _)) ?_
    intro f _ g _ isF isG
    obtain ⟨record, found, hf⟩ := (Option.any_eq_true _ _).mp isF
    obtain ⟨record', found', hg⟩ := (Option.any_eq_true _ _).mp isG
    obtain rfl := Option.some.inj (found.symm.trans found')
    exact Option.some.inj ((of_decide_eq_true hf).symm.trans (of_decide_eq_true hg))
  · obtain ⟨before, claim, between, rfl, record, found⟩ :=
      claim_origin (entered_claimed now notYet) (.inr message)
    refine ⟨before, claim, between, record, rfl, found, fun later => ?_⟩
    have kept := KeepsClaimed.run platform (Sys.after platform (before ++ [claim])) later
    have claimed : record.invocationId ≠ none := by
      rw [found.call.claim]
      exact Option.some_ne_none _
    obtain ⟨record', stored, closed⟩ := kept _ _ found.stored claimed
    refine ⟨record', closed, ?_⟩
    rw [← stored, Sys.after, Sys.after, ← Sys.run_append]
    simp

end AgentCompanyOS.Runtime
