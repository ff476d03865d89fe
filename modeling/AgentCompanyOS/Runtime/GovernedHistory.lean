import AgentCompanyOS.Runtime.Traces

/-!
# The history of governed records

`save_governed_action` takes any record that its class can build, from any caller. The laws
of the history are split between the constructor of the record and the guard of the store;
together they leave six decision lists, and every save moves a record forward by one step.
The other tables of the store may change freely between the saves.
-/

set_option autoImplicit false

namespace AgentCompanyOS.Runtime

open Foundation Foundation.Txn Domain

/-! ## Calls -/

/-- A call of the store: a save with any record and any expected version, or a change of
what is not a governed record. -/
inductive GovernedCall where
  | save (record : GovernedAction) (expected : Option Version)
  | other (change : RuntimeStore → RuntimeStore)

/-- The store after a call, whether it was accepted or raised. -/
def GovernedCall.result (s : RuntimeStore) : GovernedCall → RuntimeStore
  | .save record expected => (World.after (saveGovernedAction record expected ⟨s, 0, 0⟩)).store
  | .other change => { change s with governed := s.governed }

/-- The store after a sequence of calls, from one without governed records. -/
def governedAfter (base : RuntimeStore) (calls : List GovernedCall) : RuntimeStore :=
  calls.foldl GovernedCall.result { base with governed := .empty }

/-! ## What one save does -/

/-- What is common to a record and a later record of its intent. -/
structure RecordFollows (old record : GovernedAction) : Prop where
  intent : record.intent = old.intent
  request : record.request = old.request
  decisions : old.decisions <+: record.decisions
  version : old.version.value ≤ record.version.value
  cancelled : old.cancelled = true → record.cancelled = true
  consumed : old.consumed = true → record.consumed = true
  claim : old.invocationId ≠ none → record.invocationId = old.invocationId

/-- An accepted save: a first record in its initial state, or the next one of its intent. -/
structure Saved (s : RuntimeStore) (record : GovernedAction) (later : RuntimeStore) : Prop where
  stored : later.governed = s.governed.put record
  first : s.governed.get? record.intent.id = none → record.version = .initial ∧
    record.decisions = [] ∧ record.cancelled = false ∧ record.invocationId = none ∧
    record.consumed = false
  next : ∀ old, s.governed.get? record.intent.id = some old → RecordFollows old record ∧
    record.version = old.version.next ∧
    (record.decisions = old.decisions ∨ ∃ d, record.decisions = old.decisions ++ [d])

section Saves

variable {s s' : RuntimeStore} {record old : GovernedAction} {expected : Option Version}

theorem RecordFollows.refl (record : GovernedAction) : RecordFollows record record :=
  ⟨rfl, rfl, List.prefix_rfl, Nat.le_refl _, id, id, fun _ => rfl⟩

theorem RecordFollows.trans {a b c : GovernedAction} (first : RecordFollows a b)
    (second : RecordFollows b c) : RecordFollows a c where
  intent := second.intent.trans first.intent
  request := second.request.trans first.request
  decisions := first.decisions.trans second.decisions
  version := first.version.trans second.version
  cancelled := second.cancelled ∘ first.cancelled
  consumed := second.consumed ∘ first.consumed
  claim claimed := by
    have same := first.claim claimed
    exact (second.claim (same ▸ claimed)).trans same

theorem follows_of_history (history : governedHistory old record) : RecordFollows old record := by
  obtain ⟨intent, request, version, decisions, -, -, cancelled, claim, consumed⟩ := history
  refine ⟨intent, request, decisions, ?_, cancelled, consumed, claim⟩
  rw [version]
  exact Nat.le_succ _

/-- The decisions of the next record are those of the last one, and one more at most. -/
theorem decisions_of_history (history : governedHistory old record) :
    record.decisions = old.decisions ∨ ∃ d, record.decisions = old.decisions ++ [d] := by
  obtain ⟨-, -, -, ⟨more, same⟩, length, -⟩ := history
  rw [← same, List.length_append] at length
  rw [← same]
  match more, length with
  | [], _ => exact .inl (List.append_nil _)
  | [d], _ => exact .inr ⟨d, rfl⟩
  | _ :: _ :: _, length =>
      simp only [List.length_cons] at length
      omega

/-- What an accepted save does, which is a write of the store. -/
theorem saved_of_ok {w w' : World RuntimeStore}
    (ok : saveGovernedAction record expected w = .ok () w') :
    Saved w.store record w'.store ∧ Write [.prepare, .claim] w.store w'.store := by
  obtain ⟨passed, rfl⟩ := checked_update_ok (reads_checkGoverned record expected) ok
  have savable := checkGoverned_eq_ok passed
  have history := savable.history
  cases present : w.store.governed.get? record.intent.id with
  | none =>
      rw [present] at history
      obtain ⟨rfl, version, decisions, cancelled, claim, consumed, -⟩ := history.2
      refine ⟨⟨rfl, fun _ => ⟨version, decisions, cancelled, claim, consumed⟩, ?_⟩, ?_⟩
      · intro old found
        rw [present] at found
        cases found
      · exact .prepare (by decide) w.store record present savable
  | some old =>
      rw [present] at history
      obtain ⟨-, history⟩ := history
      refine ⟨⟨rfl, ?_, ?_⟩, ?_⟩
      · intro absent
        rw [present] at absent
        cases absent
      · intro other found
        rw [present] at found
        obtain rfl := Option.some.inj found
        exact ⟨follows_of_history history, history.2.2.1, decisions_of_history history⟩
      · exact .claim (by decide) w.store old record present history

end Saves

/-! ## Whole histories -/

/-- The decision lists that a record can have. -/
def decisionLists : List (List DecisionKind) :=
  [[], [.approved], [.rejected], [.expired], [.approved, .revoked], [.approved, .expired]]

/-- The laws of the governed records of a store. -/
structure GovernedLaws (s : RuntimeStore) : Prop where
  decisions : ∀ g ∈ s.governed.values, g.decisions.map ApprovalDecision.kind ∈ decisionLists
  dated : ∀ g ∈ s.governed.values, ∀ d ∈ g.decisions,
    (d.kind = .approved → d.at' < g.intent.expiresAt) ∧
    (d.kind = .expired → g.intent.expiresAt ≤ d.at')
  claimed : ∀ g ∈ s.governed.values, g.consumed = true → g.invocationId ≠ none
  perAction : ∀ g ∈ s.governed.values, ∀ g' ∈ s.governed.values,
    g.intent.actionId = g'.intent.actionId → g = g'

section Histories

variable {s : RuntimeStore}

/-- The constructor of a record allows six decision lists. -/
theorem decisions_listed (g : GovernedAction) :
    g.decisions.map ApprovalDecision.kind ∈ decisionLists := by
  have order := g.valid.decisionOrder
  match decided : g.decisions with
  | [] => decide
  | [first] =>
      rw [decided] at order
      have notRevoked : first.kind ≠ .revoked := order
      cases kind : first.kind with
      | revoked => exact absurd kind notRevoked
      | _ => simp [decisionLists, kind]
  | [first, second] =>
      rw [decided] at order
      obtain ⟨approved, kind | kind, -⟩ := order <;> simp [decisionLists, approved, kind]
  | _ :: _ :: _ :: _ =>
      rw [decided] at order
      exact order.elim

/-- A save that is refused leaves the store as it was. -/
theorem saved_or_same (s : RuntimeStore) (record : GovernedAction) (expected : Option Version) :
    (Saved s record (GovernedCall.result s (.save record expected)) ∧
      Write [.prepare, .claim] s (GovernedCall.result s (.save record expected))) ∨
    GovernedCall.result s (.save record expected) = s := by
  show (Saved s record (World.after (saveGovernedAction record expected ⟨s, 0, 0⟩)).store ∧
    Write _ s (World.after (saveGovernedAction record expected ⟨s, 0, 0⟩)).store) ∨
    (World.after (saveGovernedAction record expected ⟨s, 0, 0⟩)).store = s
  cases answered : saveGovernedAction record expected ⟨s, 0, 0⟩ with
  | ok done w' =>
      apply Or.inl
      exact saved_of_ok answered
  | error e w' =>
      apply Or.inr
      show w'.store = s
      rw [atomic_eq_error answered]

/-- A call leaves a store with one record for an action such a store. -/
theorem GovernedCall.oneIntent (call : GovernedCall) (h : OneIntent s) :
    OneIntent (call.result s) := by
  cases call with
  | other change => exact h
  | save record expected =>
      obtain ⟨-, wrote⟩ | same := saved_or_same s record expected
      · exact wrote.oneIntent h
      · rw [same]
        exact h

/-- After a call, every record is followed by one of its intent. -/
theorem GovernedCall.follows (call : GovernedCall) {g : GovernedAction}
    (present : s.governed.get? g.intent.id = some g) :
    ∃ g', (call.result s).governed.get? g.intent.id = some g' ∧ RecordFollows g g' := by
  cases call with
  | other change => exact ⟨g, present, .refl g⟩
  | save record expected =>
      obtain ⟨saved, -⟩ | same := saved_or_same s record expected
      · rw [saved.stored, Registry.get?_put]
        by_cases same : GovernedAction.key record = g.intent.id
        · have id : record.intent.id = g.intent.id := same
          have present' : s.governed.get? record.intent.id = some g := id ▸ present
          exact ⟨record, by simp [same], (saved.next g present').1⟩
        · exact ⟨g, by simp [same, present], .refl g⟩
      · rw [same]
        exact ⟨g, present, .refl g⟩

theorem follows_calls (calls : List GovernedCall) {g : GovernedAction}
    (present : s.governed.get? g.intent.id = some g) :
    ∃ g', (calls.foldl GovernedCall.result s).governed.get? g.intent.id = some g' ∧
      RecordFollows g g' := by
  induction calls generalizing s g with
  | nil => exact ⟨g, present, .refl g⟩
  | cons call rest ih =>
      obtain ⟨next, present, follows⟩ := call.follows present
      have id : next.intent.id = g.intent.id := congrArg ActionIntent.id follows.intent
      rw [← id] at present ⊢
      obtain ⟨last, present, after⟩ := ih present
      exact ⟨last, present, follows.trans after⟩

theorem governedAfter_oneIntent (base : RuntimeStore) (calls : List GovernedCall) :
    OneIntent (governedAfter base calls) := by
  have run : ∀ (calls : List GovernedCall) (s : RuntimeStore), OneIntent s →
      OneIntent (calls.foldl GovernedCall.result s) := by
    intro calls
    induction calls with
    | nil => exact fun _ h => h
    | cons call rest ih => exact fun s h => ih _ (call.oneIntent h)
  exact run calls _ fun g mem => (List.not_mem_nil mem).elim

/-- After every sequence of calls: the laws hold, every accepted save files a first record or
moves the record of its intent forward by one step, and whatever calls come later, every
record is followed by one of its intent that has taken nothing back. -/
theorem governed_histories (base : RuntimeStore) (calls later : List GovernedCall) :
    let s := governedAfter base calls
    GovernedLaws s ∧
      (∀ record expected issued reads w',
        saveGovernedAction record expected ⟨s, issued, reads⟩ = .ok () w' →
        Saved s record w'.store) ∧
      ∀ g ∈ s.governed.values, ∃ g',
        (governedAfter base (calls ++ later)).governed.get? g.intent.id = some g' ∧
        RecordFollows g g' := by
  intro s
  refine ⟨⟨fun g _ => decisions_listed g, fun g _ d mem => ?_,
    fun g _ => g.valid.claimedWhenConsumed, governedAfter_oneIntent base calls⟩,
    fun record expected issued reads w' ok => (saved_of_ok ok).1, fun g mem => ?_⟩
  · have binds := g.valid.decisionBinding d mem
    exact ⟨binds.approvedInTime, binds.expiredLate⟩
  · unfold governedAfter
    rw [List.foldl_append]
    exact follows_calls later (Registry.get?_of_mem_values mem)

end Histories

end AgentCompanyOS.Runtime
