import AgentCompanyOS.Foundation.Transaction

/-!
# Nested transaction scopes

A unit of work on a store is a tree: steps one after the other, scopes in scopes to
any depth, and at any place something that raises. A scope that raises puts the store
back to where it was at its start; its caller catches what was raised and goes on, or
lets it pass. `Scopes.perform` runs a tree.

`Scopes.kept` says which steps a tree keeps when it returns: those that are in no scope
that failed. A tree that returns leaves the store that its kept steps alone lead to, in
their order (`Scopes.outcome_eq_ok_iff`), and what every step preserves is preserved by
every tree (`Scopes.kept_preserves`).
-/

set_option autoImplicit false

namespace AgentCompanyOS.Foundation

variable {ω ε σ : Type}

/-- A unit of work: what is left to do. -/
inductive Scoped (ω ε : Type) where
  | finished
  | step (w : ω) (rest : Scoped ω ε)
  | raised (e : ε)
  | scope (body : Scoped ω ε) (caught : Bool) (rest : Scoped ω ε)

/-- The steps of a tree, whether it reaches them or not. -/
def Scoped.steps : Scoped ω ε → List ω
  | .finished => []
  | .step w rest => w :: rest.steps
  | .raised _ => []
  | .scope body _ rest => body.steps ++ rest.steps

namespace Txn

/-- A scope inside another one, whose caller may catch what it raises. -/
def nested (caught : Bool) (m : Txn ε σ Unit) : Txn ε σ Unit :=
  if caught then catching (atomic m) fun _ => pure () else atomic m

theorem nested_of_ok {caught : Bool} {m : Txn ε σ Unit} {w w' : World σ} (h : m w = .ok () w') :
    nested caught m w = .ok () w' := by
  have inner : atomic m w = .ok () w' := atomic_eq_ok.mpr h
  cases caught with
  | true => exact catching_eq_ok.mpr (.inl inner)
  | false => exact inner

theorem atomic_of_error {m : Txn ε σ Unit} {w w' : World σ} {e : ε} (h : m w = .error e w') :
    atomic m w = .error e (w'.rollback w.store) := by
  unfold atomic
  rw [h]

theorem nested_caught {m : Txn ε σ Unit} {w w' : World σ} {e : ε} (h : m w = .error e w') :
    nested true m w = .ok () (w'.rollback w.store) :=
  catching_eq_ok.mpr (.inr ⟨e, _, atomic_of_error h, rfl⟩)

theorem nested_raising {m : Txn ε σ Unit} {w w' : World σ} {e : ε} (h : m w = .error e w') :
    nested false m w = .error e (w'.rollback w.store) :=
  atomic_of_error h

end Txn

/-- What a step does to a store: it raises, or it is taken. -/
structure Scopes (ω ε σ : Type) where
  check : ω → σ → Except ε Unit
  take : σ → ω → σ

namespace Scopes

variable (k : Scopes ω ε σ)

/-- Run a tree. -/
def perform : Scoped ω ε → Txn ε σ Unit
  | .finished => pure ()
  | .step w rest => do
      let s ← Txn.getStore
      Txn.ofExcept (k.check w s)
      Txn.modifyStore fun s => k.take s w
      perform rest
  | .raised e => Txn.raise e
  | .scope body caught rest => do
      Txn.nested caught (perform body)
      perform rest

/-- Take steps one after the other. -/
def replay (ws : List ω) (s : σ) : σ := ws.foldl k.take s

/-- The steps that a tree keeps when it returns, or what it raises. -/
def kept : Scoped ω ε → σ → Except ε (List ω)
  | .finished, _ => .ok []
  | .step w rest, s =>
      match k.check w s with
      | .ok () => (kept rest (k.take s w)).map (w :: ·)
      | .error e => .error e
  | .raised e, _ => .error e
  | .scope body caught rest, s =>
      match kept body s with
      | .ok ws => (kept rest (k.replay ws s)).map (ws ++ ·)
      | .error e => if caught then kept rest s else .error e

/-- What a run of a tree makes of a store, or what it raises. -/
def outcome (t : Scoped ω ε) (s : σ) : Except ε σ :=
  match k.perform t ⟨s, 0, 0⟩ with
  | .ok _ w => .ok w.store
  | .error e _ => .error e

/-! ## Runs and kept steps -/

/-- A run that keeps these steps returns the store that they lead to. -/
def Returns (t : Scoped ω ε) : Prop :=
  ∀ (w : World σ) (ws : List ω), k.kept t w.store = .ok ws →
    k.perform t w = .ok () { w with store := k.replay ws w.store }

/-- A run that keeps nothing raises; it leaves some store behind, which the scope
around it puts back. -/
def Raises (t : Scoped ω ε) : Prop :=
  ∀ (w : World σ) (e : ε), k.kept t w.store = .error e →
    ∃ s, k.perform t w = .error e { w with store := s }

variable {k}

theorem perform_step {w : ω} {s : World σ} (passed : k.check w s.store = .ok ())
    (rest : Scoped ω ε) :
    k.perform (.step w rest) s = k.perform rest { s with store := k.take s.store w } := by
  show (Txn.getStore >>= _) s = _
  rw [Txn.bind_getStore, passed]
  rfl

theorem perform_refused {w : ω} {s : World σ} {e : ε} (refused : k.check w s.store = .error e)
    (rest : Scoped ω ε) : k.perform (.step w rest) s = .error e s := by
  show (Txn.getStore >>= _) s = _
  rw [Txn.bind_getStore, refused]
  rfl

theorem Returns.step {rest : Scoped ω ε} (ih : k.Returns rest) (w : ω) :
    k.Returns (.step w rest) := by
  intro s ws h
  unfold kept at h
  cases passed : k.check w s.store with
  | error e => simp [passed] at h
  | ok _ =>
      rw [passed] at h
      cases left : k.kept rest (k.take s.store w) with
      | error e => simp [left, Except.map] at h
      | ok later =>
          obtain rfl : w :: later = ws := by simpa [left, Except.map] using h
          rw [perform_step passed]
          exact ih _ later left

theorem Raises.step {rest : Scoped ω ε} (ih : k.Raises rest) (w : ω) :
    k.Raises (.step w rest) := by
  intro s e h
  unfold kept at h
  cases passed : k.check w s.store with
  | error e' =>
      obtain rfl : e' = e := by simpa [passed] using h
      exact ⟨s.store, perform_refused passed rest⟩
  | ok _ =>
      rw [passed] at h
      cases left : k.kept rest (k.take s.store w) with
      | ok later => simp [left, Except.map] at h
      | error e' =>
          obtain rfl : e' = e := by simpa [left, Except.map] using h
          rw [perform_step passed]
          exact ih _ e' left

/-- A scope that returned: the rest starts from what its kept steps lead to. A scope that
failed: the store is what it was before it. -/
theorem perform_scope {body : Scoped ω ε} (returns : k.Returns body) (raises : k.Raises body)
    (caught : Bool) (rest : Scoped ω ε) (s : World σ) :
    (∀ ws, k.kept body s.store = .ok ws → k.perform (.scope body caught rest) s =
      k.perform rest { s with store := k.replay ws s.store }) ∧
    (∀ e, k.kept body s.store = .error e → k.perform (.scope body caught rest) s =
      if caught then k.perform rest s else .error e s) := by
  show (∀ ws, _ → (Txn.nested caught (k.perform body) >>= fun _ => k.perform rest) s = _) ∧
    (∀ e, _ → (Txn.nested caught (k.perform body) >>= fun _ => k.perform rest) s = _)
  constructor
  · intro ws inside
    rw [Txn.bind_of_ok (Txn.nested_of_ok (returns s ws inside))]
  · intro e inside
    obtain ⟨left, failed⟩ := raises s e inside
    cases caught with
    | true =>
        rw [Txn.bind_of_ok (Txn.nested_caught failed)]
        rfl
    | false =>
        rw [Txn.bind_of_error (Txn.nested_raising failed)]
        rfl

theorem Returns.scope {body rest : Scoped ω ε} (returns : k.Returns body)
    (raises : k.Raises body) (ih : k.Returns rest) (caught : Bool) :
    k.Returns (.scope body caught rest) := by
  intro s ws h
  obtain ⟨returned, failed⟩ := perform_scope returns raises caught rest s
  unfold kept at h
  cases inside : k.kept body s.store with
  | ok first =>
      rw [inside] at h
      cases left : k.kept rest (k.replay first s.store) with
      | error e => simp [left, Except.map] at h
      | ok later =>
          obtain rfl : first ++ later = ws := by simpa [left, Except.map] using h
          rw [returned first inside, ih _ later left]
          simp [replay]
  | error e =>
      rw [failed e inside]
      cases caught with
      | true => exact ih s ws (by simpa [inside] using h)
      | false => simp [inside] at h

theorem Raises.scope {body rest : Scoped ω ε} (returns : k.Returns body)
    (raises : k.Raises body) (ih : k.Raises rest) (caught : Bool) :
    k.Raises (.scope body caught rest) := by
  intro s e h
  obtain ⟨returned, failed⟩ := perform_scope returns raises caught rest s
  unfold kept at h
  cases inside : k.kept body s.store with
  | ok first =>
      rw [inside] at h
      cases left : k.kept rest (k.replay first s.store) with
      | ok later => simp [left, Except.map] at h
      | error e' =>
          obtain rfl : e' = e := by simpa [left, Except.map] using h
          rw [returned first inside]
          exact ih _ e' left
  | error e' =>
      rw [failed e' inside]
      cases caught with
      | true => exact ih s e (by simpa [inside] using h)
      | false =>
          obtain rfl : e' = e := by simpa [inside] using h
          exact ⟨s.store, rfl⟩

/-- By induction on the tree: a run does what its kept steps say. -/
theorem perform_spec (t : Scoped ω ε) : k.Returns t ∧ k.Raises t := by
  induction t with
  | finished =>
      constructor
      · intro w ws h
        cases h
        rfl
      · intro w e h
        cases h
  | raised e₀ =>
      constructor
      · intro w ws h
        cases h
      · intro w e h
        cases h
        exact ⟨w.store, rfl⟩
  | step w rest ih => exact ⟨ih.1.step w, ih.2.step w⟩
  | scope body caught rest ihBody ihRest =>
      exact ⟨.scope ihBody.1 ihBody.2 ihRest.1 caught, .scope ihBody.1 ihBody.2 ihRest.2 caught⟩

/-- The effects of failed scopes are dropped, and no others. -/
theorem outcome_eq_ok_iff {t : Scoped ω ε} {s s' : σ} :
    k.outcome t s = .ok s' ↔ ∃ ws, k.kept t s = .ok ws ∧ k.replay ws s = s' := by
  obtain ⟨returns, raises⟩ := perform_spec (k := k) t
  unfold outcome
  cases inside : k.kept t s with
  | ok ws => simp [returns ⟨s, 0, 0⟩ ws inside]
  | error e =>
      obtain ⟨left, failed⟩ := raises ⟨s, 0, 0⟩ e inside
      simp [failed]

/-! ## What every tree preserves -/

/-- What the steps of a tree preserve, the steps that it keeps preserve. -/
theorem kept_preserves {P : ω → Prop} {I : σ → Prop}
    (taken : ∀ {s w}, P w → I s → k.check w s = .ok () → I (k.take s w)) {t : Scoped ω ε}
    (steps : ∀ w ∈ t.steps, P w) {s : σ} (start : I s) {ws : List ω}
    (h : k.kept t s = .ok ws) : I (k.replay ws s) := by
  induction t generalizing s ws with
  | finished =>
      cases h
      exact start
  | raised e => cases h
  | step w rest ih =>
      unfold kept at h
      cases passed : k.check w s with
      | error e => simp [passed] at h
      | ok _ =>
          rw [passed] at h
          cases left : k.kept rest (k.take s w) with
          | error e => simp [left, Except.map] at h
          | ok later =>
              obtain rfl : w :: later = ws := by simpa [left, Except.map] using h
              have here : P w := steps w (by simp [Scoped.steps])
              have others : ∀ v ∈ rest.steps, P v := by
                intro v mem
                exact steps v (by simp [Scoped.steps, mem])
              exact ih others (taken here start passed) left
  | scope body caught rest ihBody ihRest =>
      have inner : ∀ v ∈ body.steps, P v := by
        intro v mem
        exact steps v (by simp [Scoped.steps, mem])
      have outer : ∀ v ∈ rest.steps, P v := by
        intro v mem
        exact steps v (by simp [Scoped.steps, mem])
      unfold kept at h
      cases inside : k.kept body s with
      | ok first =>
          rw [inside] at h
          cases left : k.kept rest (k.replay first s) with
          | error e => simp [left, Except.map] at h
          | ok later =>
              obtain rfl : first ++ later = ws := by simpa [left, Except.map] using h
              have between : I (k.replay first s) := ihBody inner start inside
              simpa [replay] using ihRest outer between left
      | error e =>
          cases caught with
          | true => exact ihRest outer start (by simpa [inside] using h)
          | false => simp [inside] at h

end Scopes

end AgentCompanyOS.Foundation
