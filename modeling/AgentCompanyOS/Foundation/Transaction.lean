import Mathlib.Logic.Relation

/-!
# Transactions that may raise

A service call reads and writes a store, draws identifiers, reads a clock and
may raise. `Txn ε σ α` is such a call: a state-and-exception program over a
`World`, the store together with the number of identifiers drawn and of clock
readings made so far. `atomic` is a transaction scope: when its body raises the
store is put back, while drawn identifiers and clock readings stay used.

Two ways of reasoning are provided. A call that succeeded is taken apart
statement by statement with the `*_eq_ok` equivalences. What a call can do to
the world whether it succeeds or raises is a `Guarantee`: a transitive relation
between worlds that allows rollback and the passing of time. `Moves G m` says
that every outcome of `m` is related to its start, and it composes over the
program's statements (`Moves.bind`, `Moves.atomic`, `Moves.catching`).
-/

set_option autoImplicit false

namespace AgentCompanyOS.Foundation

/-- A store with the counters of its identifier generator and its clock. -/
structure World (σ : Type) where
  store : σ
  issued : Nat
  reads : Nat

/-- A program over a store that returns a value or raises. -/
abbrev Txn (ε σ α : Type) : Type := EStateM ε (World σ) α

variable {ε σ τ α β : Type}

/-- The world a call ends in, whether it returned or raised. -/
def World.after : EStateM.Result ε (World σ) α → World σ
  | .ok _ w => w
  | .error _ w => w

/-- What a call answers: its value, or what it raised. -/
def World.answer : EStateM.Result ε (World σ) α → Except ε α
  | .ok a _ => .ok a
  | .error e _ => .error e

/-- The world with its store put back to an earlier one. -/
def World.rollback (w : World σ) (s : σ) : World σ := { w with store := s }

namespace Txn

/-! ## Statements -/

/-- The current store. -/
def getStore : Txn ε σ σ := fun w => .ok w.store w

/-- Replace the store by its image. -/
def modifyStore (f : σ → σ) : Txn ε σ Unit := fun w => .ok () { w with store := f w.store }

/-- Draw the next value of a generator. -/
def draw (gen : Nat → α) : Txn ε σ α := fun w =>
  .ok (gen w.issued) { w with issued := w.issued + 1 }

/-- Read a clock. -/
def readClock (clock : Nat → α) : Txn ε σ α :=
  fun w => .ok (clock w.reads) { w with reads := w.reads + 1 }

/-- Raise. -/
def raise (e : ε) : Txn ε σ α := fun w => .error e w

/-- Raise when a condition holds. -/
def raiseIf (c : Prop) [Decidable c] (e : ε) : Txn ε σ Unit := if c then raise e else pure ()

/-- Run a statement when a condition holds. -/
def runIf (c : Prop) [Decidable c] (m : Txn ε σ Unit) : Txn ε σ Unit := if c then m else pure ()

/-- The result of a pure computation that may raise. -/
def ofExcept (r : Except ε α) : Txn ε σ α :=
  match r with
  | .ok a => pure a
  | .error e => raise e

/-- The value of an option, or raise. -/
def need (o : Option α) (e : ε) : Txn ε σ α :=
  match o with
  | some a => pure a
  | none => raise e

/-- Transaction scope: when the body raises the store is put back. -/
def atomic (m : Txn ε σ α) : Txn ε σ α := fun w =>
  match m w with
  | .ok a w' => .ok a w'
  | .error e w' => .error e (w'.rollback w.store)

/-- Exception handler; it sees the world in which the body raised. -/
def catching (m : Txn ε σ α) (h : ε → Txn ε σ α) : Txn ε σ α := fun w =>
  match m w with
  | .ok a w' => .ok a w'
  | .error e w' => h e w'

/-- Visit a list in order. -/
def forEach (xs : List β) (f : β → Txn ε σ Unit) : Txn ε σ Unit :=
  match xs with
  | [] => pure ()
  | x :: rest => do f x; forEach rest f

/-- Run a program of one component on the store that contains it. -/
def zoom (get : τ → σ) (put : σ → τ → τ) (m : Txn ε σ α) : Txn ε τ α := fun w =>
  match m ⟨get w.store, w.issued, w.reads⟩ with
  | .ok a v => .ok a ⟨put v.store w.store, v.issued, v.reads⟩
  | .error e v => .error e ⟨put v.store w.store, v.issued, v.reads⟩

/-! ## Taking a successful call apart -/

theorem bind_apply (m : Txn ε σ α) (f : α → Txn ε σ β) (w : World σ) :
    (m >>= f) w =
      match m w with
      | .ok a w' => f a w'
      | .error e w' => .error e w' := by
  show EStateM.bind m f w = _
  unfold EStateM.bind
  cases m w <;> rfl

theorem bind_eq_ok {m : Txn ε σ α} {f : α → Txn ε σ β} {w w'' : World σ} {b : β} :
    (m >>= f) w = .ok b w'' ↔ ∃ a w', m w = .ok a w' ∧ f a w' = .ok b w'' := by
  rw [bind_apply]
  cases m w with
  | ok a w' =>
      constructor
      · intro h
        exact ⟨a, w', rfl, h⟩
      · rintro ⟨a, w', h, h'⟩
        cases h
        exact h'
  | error e w' => simp

theorem bind_eq_error {m : Txn ε σ α} {f : α → Txn ε σ β} {w w'' : World σ} {e : ε} :
    (m >>= f) w = .error e w'' ↔
      m w = .error e w'' ∨ ∃ a w', m w = .ok a w' ∧ f a w' = .error e w'' := by
  rw [bind_apply]
  cases m w with
  | ok a w' =>
      constructor
      · intro h
        exact .inr ⟨a, w', rfl, h⟩
      · rintro (h | ⟨a, w', h, h'⟩)
        · cases h
        · cases h
          exact h'
  | error e w' => simp

theorem bind_of_ok {m : Txn ε σ α} {w w' : World σ} {a : α} (h : m w = .ok a w')
    (f : α → Txn ε σ β) : (m >>= f) w = f a w' := by
  rw [bind_apply, h]

theorem bind_of_error {m : Txn ε σ α} {w w' : World σ} {e : ε} (h : m w = .error e w')
    (f : α → Txn ε σ β) : (m >>= f) w = .error e w' := by
  rw [bind_apply, h]

theorem pure_eq_ok {a b : α} {w w' : World σ} :
    (pure a : Txn ε σ α) w = .ok b w' ↔ a = b ∧ w = w' := by
  show (EStateM.Result.ok a w : EStateM.Result ε (World σ) α) = .ok b w' ↔ _
  simp

theorem getStore_eq_ok {s : σ} {w w' : World σ} :
    (getStore : Txn ε σ σ) w = .ok s w' ↔ w.store = s ∧ w = w' := by
  simp [getStore]

theorem modifyStore_eq_ok {f : σ → σ} {u : Unit} {w w' : World σ} :
    (modifyStore f : Txn ε σ Unit) w = .ok u w' ↔ { w with store := f w.store } = w' := by
  simp [modifyStore]

theorem draw_eq_ok {gen : Nat → α} {a : α} {w w' : World σ} :
    (draw gen : Txn ε σ α) w = .ok a w' ↔
      gen w.issued = a ∧ { w with issued := w.issued + 1 } = w' := by
  simp [draw]

theorem readClock_eq_ok {clock : Nat → α} {a : α} {w w' : World σ} :
    (readClock clock : Txn ε σ α) w = .ok a w' ↔
      clock w.reads = a ∧ { w with reads := w.reads + 1 } = w' := by
  simp [readClock]

theorem raise_eq_ok {e : ε} {a : α} {w w' : World σ} :
    (raise e : Txn ε σ α) w = .ok a w' ↔ False := by
  simp [raise]

theorem raiseIf_eq_ok {c : Prop} [Decidable c] {e : ε} {u : Unit} {w w' : World σ} :
    (raiseIf c e : Txn ε σ Unit) w = .ok u w' ↔ ¬c ∧ w = w' := by
  by_cases h : c
  · simp [raiseIf, h, raise]
  · simp [raiseIf, h, pure_eq_ok]

theorem ofExcept_eq_ok {r : Except ε α} {a : α} {w w' : World σ} :
    (ofExcept r : Txn ε σ α) w = .ok a w' ↔ r = .ok a ∧ w = w' := by
  cases r with
  | ok b => simp [ofExcept, pure_eq_ok]
  | error e => simp [ofExcept, raise]

theorem need_eq_ok {o : Option α} {e : ε} {a : α} {w w' : World σ} :
    (need o e : Txn ε σ α) w = .ok a w' ↔ o = some a ∧ w = w' := by
  cases o with
  | some b => simp [need, pure_eq_ok]
  | none => simp [need, raise]

theorem atomic_eq_ok {m : Txn ε σ α} {a : α} {w w' : World σ} :
    atomic m w = .ok a w' ↔ m w = .ok a w' := by
  unfold atomic
  cases m w with
  | ok b v => simp
  | error e v => simp

theorem atomic_eq_error {m : Txn ε σ α} {e : ε} {w w' : World σ} (h : atomic m w = .error e w') :
    w'.store = w.store := by
  unfold atomic at h
  cases hm : m w with
  | ok b v =>
      rw [hm] at h
      cases h
  | error e v =>
      rw [hm] at h
      cases h
      rfl

theorem catching_eq_ok {m : Txn ε σ α} {h : ε → Txn ε σ α} {a : α} {w w' : World σ} :
    catching m h w = .ok a w' ↔
      m w = .ok a w' ∨ ∃ e v, m w = .error e v ∧ h e v = .ok a w' := by
  unfold catching
  cases m w with
  | ok b v => simp
  | error e v =>
      constructor
      · intro handled
        exact .inr ⟨e, v, rfl, handled⟩
      · rintro (body | ⟨e', v', body, handled⟩)
        · cases body
        · cases body
          exact handled

theorem discard_eq_ok {m : Txn ε σ α} {u : Unit} {w w' : World σ} :
    discard m w = .ok u w' ↔ ∃ a, m w = .ok a w' := by
  show (m >>= fun _ => pure ()) w = .ok u w' ↔ _
  rw [bind_apply]
  cases m w with
  | ok a v =>
      show (EStateM.Result.ok () v : EStateM.Result ε (World σ) Unit) = .ok u w' ↔ _
      simp
  | error e v => simp

theorem discard_eq_error {m : Txn ε σ α} {e : ε} {w w' : World σ}
    (h : discard m w = .error e w') : m w = .error e w' := by
  change (m >>= fun _ => pure ()) w = .error e w' at h
  rcases bind_eq_error.mp h with raised | ⟨_, _, _, returned⟩
  · exact raised
  · cases returned

theorem map_eq_ok {f : α → β} {m : Txn ε σ α} {b : β} {w w' : World σ} :
    (f <$> m) w = .ok b w' ↔ ∃ a, m w = .ok a w' ∧ f a = b := by
  show EStateM.map f m w = .ok b w' ↔ _
  unfold EStateM.map
  cases m w with
  | ok a v =>
      constructor
      · intro h
        cases h
        exact ⟨a, rfl, rfl⟩
      · rintro ⟨_, h, rfl⟩
        cases h
        rfl
  | error e v => simp

theorem map_eq_error {f : α → β} {m : Txn ε σ α} {e : ε} {w w' : World σ} :
    (f <$> m) w = .error e w' ↔ m w = .error e w' := by
  show EStateM.map f m w = .error e w' ↔ _
  unfold EStateM.map
  cases m w with
  | ok a v => simp
  | error e v => simp

theorem zoom_eq_ok {get : τ → σ} {put : σ → τ → τ} {m : Txn ε σ α} {a : α} {w w' : World τ} :
    zoom get put m w = .ok a w' ↔
      ∃ v, m ⟨get w.store, w.issued, w.reads⟩ = .ok a v ∧
        ⟨put v.store w.store, v.issued, v.reads⟩ = w' := by
  unfold zoom
  cases m ⟨get w.store, w.issued, w.reads⟩ with
  | ok b v =>
      constructor
      · intro h
        cases h
        exact ⟨v, rfl, rfl⟩
      · rintro ⟨v, h, rfl⟩
        cases h
        rfl
  | error e v => simp

/-! ## Taking the first statement off a successful sequence -/

theorem getStore_then {f : σ → Txn ε σ β} {w w' : World σ} {b : β}
    (h : (getStore >>= f) w = .ok b w') : f w.store w = .ok b w' := by
  rwa [bind_of_ok (show (getStore : Txn ε σ σ) w = .ok w.store w from rfl)] at h

theorem raiseIf_then {c : Prop} [Decidable c] {e : ε} {f : Unit → Txn ε σ β} {w w' : World σ}
    {b : β} (h : (raiseIf c e >>= f) w = .ok b w') : ¬c ∧ f () w = .ok b w' := by
  obtain ⟨_, _, hc, h⟩ := bind_eq_ok.mp h
  obtain ⟨passed, rfl⟩ := raiseIf_eq_ok.mp hc
  exact ⟨passed, h⟩

theorem need_then {o : Option α} {e : ε} {f : α → Txn ε σ β} {w w' : World σ} {b : β}
    (h : (need o e >>= f) w = .ok b w') : ∃ a, o = some a ∧ f a w = .ok b w' := by
  obtain ⟨a, _, ha, h⟩ := bind_eq_ok.mp h
  obtain ⟨found, rfl⟩ := need_eq_ok.mp ha
  exact ⟨a, found, h⟩

theorem ofExcept_then {r : Except ε α} {f : α → Txn ε σ β} {w w' : World σ} {b : β}
    (h : (ofExcept r >>= f) w = .ok b w') : ∃ a, r = .ok a ∧ f a w = .ok b w' := by
  obtain ⟨a, _, ha, h⟩ := bind_eq_ok.mp h
  obtain ⟨computed, rfl⟩ := ofExcept_eq_ok.mp ha
  exact ⟨a, computed, h⟩

theorem draw_then {gen : Nat → α} {f : α → Txn ε σ β} {w w' : World σ} {b : β}
    (h : (draw gen >>= f) w = .ok b w') :
    f (gen w.issued) { w with issued := w.issued + 1 } = .ok b w' := by
  obtain ⟨a, _, ha, h⟩ := bind_eq_ok.mp h
  obtain ⟨rfl, rfl⟩ := draw_eq_ok.mp ha
  exact h

theorem readClock_then {clock : Nat → α} {f : α → Txn ε σ β} {w w' : World σ} {b : β}
    (h : (readClock clock >>= f) w = .ok b w') :
    f (clock w.reads) { w with reads := w.reads + 1 } = .ok b w' := by
  obtain ⟨a, _, ha, h⟩ := bind_eq_ok.mp h
  obtain ⟨rfl, rfl⟩ := readClock_eq_ok.mp ha
  exact h

/-- A loop of updates is one update. -/
theorem forEach_modifyStore (xs : List β) (f : β → σ → σ) (w : World σ) :
    (forEach xs fun x => modifyStore (f x) : Txn ε σ Unit) w =
      .ok () { w with store := xs.foldl (fun s x => f x s) w.store } := by
  induction xs generalizing w with
  | nil => rfl
  | cons x rest ih => exact ih { w with store := f x w.store }

theorem runIf_of {c : Prop} [Decidable c] (holds : c) (m : Txn ε σ Unit) : runIf c m = m :=
  if_pos holds

/-! ## Running a call forward -/

theorem bind_getStore (f : σ → Txn ε σ β) (w : World σ) : (getStore >>= f) w = f w.store w := rfl

theorem raiseIf_of_not {c : Prop} [Decidable c] {e : ε} (passed : ¬ c) (w : World σ) :
    (raiseIf c e : Txn ε σ Unit) w = .ok () w := raiseIf_eq_ok.mpr ⟨passed, rfl⟩

theorem raiseIf_of {c : Prop} [Decidable c] {e : ε} (holds : c) (w : World σ) :
    (raiseIf c e : Txn ε σ Unit) w = .error e w := by
  unfold raiseIf
  rw [if_pos holds]
  rfl

theorem need_of_some {o : Option α} {e : ε} {a : α} (found : o = some a) (w : World σ) :
    (need o e : Txn ε σ α) w = .ok a w := need_eq_ok.mpr ⟨found, rfl⟩

theorem runIf_of_not {c : Prop} [Decidable c] (fails : ¬ c) (m : Txn ε σ Unit) (w : World σ) :
    runIf c m w = .ok () w := by
  unfold runIf
  rw [if_neg fails]
  rfl

/-- A call without a value that returns. -/
theorem ok_of_isOk {r : EStateM.Result ε (World σ) Unit} (h : (World.answer r).isOk = true) :
    r = .ok () (World.after r) := by
  cases r with
  | ok u w => rfl
  | error e w => cases h

/-! ## Calls that only read -/

/-- Whatever the outcome, the call leaves the world as it found it. -/
def Reads (m : Txn ε σ α) : Prop := ∀ w, World.after (m w) = w

theorem Reads.world_eq {m : Txn ε σ α} (hm : Reads m) {w w' : World σ} {a : α}
    (h : m w = .ok a w') : w' = w := by
  have same := hm w
  rw [h] at same
  exact same

theorem Reads.then {m : Txn ε σ α} (hm : Reads m) {f : α → Txn ε σ β} {w w' : World σ} {b : β}
    (h : (m >>= f) w = .ok b w') : ∃ a, m w = .ok a w ∧ f a w = .ok b w' := by
  obtain ⟨a, v, ha, rest⟩ := bind_eq_ok.mp h
  obtain rfl := hm.world_eq ha
  exact ⟨a, ha, rest⟩

theorem Reads.pure (a : α) : Reads (pure a : Txn ε σ α) := fun _ => rfl

theorem Reads.getStore : Reads (getStore : Txn ε σ σ) := fun _ => rfl

theorem Reads.raise (e : ε) : Reads (raise e : Txn ε σ α) := fun _ => rfl

theorem Reads.raiseIf (c : Prop) [Decidable c] (e : ε) : Reads (raiseIf c e : Txn ε σ Unit) := by
  unfold Txn.raiseIf
  split
  · exact Reads.raise e
  · exact Reads.pure ()

theorem Reads.ofExcept (r : Except ε α) : Reads (ofExcept r : Txn ε σ α) := by
  cases r with
  | ok a => exact Reads.pure a
  | error e => exact Reads.raise e

theorem Reads.need (o : Option α) (e : ε) : Reads (need o e : Txn ε σ α) := by
  cases o with
  | some a => exact Reads.pure a
  | none => exact Reads.raise e

theorem Reads.bind {m : Txn ε σ α} {f : α → Txn ε σ β} (hm : Reads m) (hf : ∀ a, Reads (f a)) :
    Reads (m >>= f) := by
  intro w
  have first := hm w
  cases h : m w with
  | ok a w' =>
      rw [h] at first
      have here : w' = w := first
      rw [bind_of_ok h, here]
      exact hf a w
  | error e w' =>
      rw [h] at first
      rw [bind_of_error h]
      exact first

theorem Reads.zoom {get : τ → σ} {put : σ → τ → τ} (lawful : ∀ t, put (get t) t = t)
    {m : Txn ε σ α} (hm : Reads m) : Reads (zoom get put m) := by
  intro w
  have inner := hm ⟨get w.store, w.issued, w.reads⟩
  unfold Txn.zoom
  cases h : m ⟨get w.store, w.issued, w.reads⟩ with
  | ok a v =>
      rw [h] at inner
      obtain rfl : v = ⟨get w.store, w.issued, w.reads⟩ := inner
      show World.mk (put (get w.store) w.store) w.issued w.reads = w
      rw [lawful]
  | error e v =>
      rw [h] at inner
      obtain rfl : v = ⟨get w.store, w.issued, w.reads⟩ := inner
      show World.mk (put (get w.store) w.store) w.issued w.reads = w
      rw [lawful]

theorem after_discard (m : Txn ε σ α) (w : World σ) :
    World.after (discard m w) = World.after (m w) := by
  show World.after ((m >>= fun _ => Pure.pure ()) w) = World.after (m w)
  rw [bind_apply]
  cases m w <;> rfl

/-- A scope that checks and then updates the store. -/
theorem checked_update_ok {f : σ → σ} {m : Txn ε σ Unit} (reads : Reads m) {u : Unit}
    {w w' : World σ} (h : atomic (m >>= fun _ => modifyStore f) w = .ok u w') :
    m w = .ok () w ∧ w' = { w with store := f w.store } := by
  obtain ⟨_, passed, h⟩ := reads.then (atomic_eq_ok.mp h)
  exact ⟨passed, (modifyStore_eq_ok.mp h).symm⟩

/-! ## Calls that roll back -/

/-- A call that raises leaves the store as it found it. -/
structure RollsBack (m : Txn ε σ α) : Prop where
  store_eq : ∀ {w w' : World σ} {e : ε}, m w = .error e w' → w'.store = w.store

theorem RollsBack.atomic (m : Txn ε σ α) : RollsBack (atomic m) := ⟨atomic_eq_error⟩

theorem Reads.rollsBack {m : Txn ε σ α} (hm : Reads m) : RollsBack m := by
  constructor
  intro w w' e raised
  have same := hm w
  rw [raised] at same
  exact congrArg World.store same

/-- Checks before a call that rolls back. -/
theorem RollsBack.bind_reads {m : Txn ε σ α} {f : α → Txn ε σ β} (hm : Reads m)
    (hf : ∀ a, RollsBack (f a)) : RollsBack (m >>= f) := by
  constructor
  intro w w' e raised
  rcases bind_eq_error.mp raised with first | ⟨a, v, returned, second⟩
  · exact hm.rollsBack.store_eq first
  · have same := (hf a).store_eq second
    rwa [hm.world_eq returned] at same

theorem RollsBack.map {m : Txn ε σ α} (f : α → β) (hm : RollsBack m) : RollsBack (f <$> m) :=
  ⟨fun raised => hm.store_eq (map_eq_error.mp raised)⟩

theorem RollsBack.discard {m : Txn ε σ α} (hm : RollsBack m) : RollsBack (discard m) :=
  ⟨fun raised => hm.store_eq (discard_eq_error raised)⟩

/-! ## What holds of every returned value -/

/-- Every value that the call returns satisfies `P`. -/
def Yields (m : Txn ε σ α) (P : α → Prop) : Prop := ∀ w a w', m w = .ok a w' → P a

theorem Yields.bind {P : β → Prop} {Q : α → Prop} {m : Txn ε σ α} {f : α → Txn ε σ β}
    (hm : Yields m Q) (hf : ∀ a, Q a → Yields (f a) P) : Yields (m >>= f) P := by
  intro w b w'' h
  obtain ⟨a, w', ha, hb⟩ := bind_eq_ok.mp h
  exact hf a (hm w a w' ha) w' b w'' hb

theorem Yields.true (m : Txn ε σ α) : Yields m fun _ => True := fun _ _ _ _ => trivial

/-! ## What a call may raise -/

end Txn

/-! ## Guarantees -/

/-- A world later in time than another: identifiers and clock readings are only
used up. -/
def World.Later (w w' : World σ) : Prop := w.issued ≤ w'.issued ∧ w.reads ≤ w'.reads

theorem World.Later.refl (w : World σ) : w.Later w := ⟨Nat.le_refl _, Nat.le_refl _⟩

theorem World.Later.trans {u v w : World σ} (h : u.Later v) (h' : v.Later w) : u.Later w :=
  ⟨Nat.le_trans h.1 h'.1, Nat.le_trans h.2 h'.2⟩

/-- What a program may do to a world: a transitive relation that allows every world
with the same store and later counters. -/
structure Guarantee (σ : Type) where
  rel : World σ → World σ → Prop
  idle : ∀ {w w'}, w'.store = w.store → w.Later w' → rel w w'
  trans : ∀ {u v w}, rel u v → rel v w → rel u w

namespace Guarantee

theorem refl (G : Guarantee σ) (w : World σ) : G.rel w w := G.idle rfl (.refl w)

/-- A preorder on stores as a guarantee. -/
def onStore (R : σ → σ → Prop) (refl : ∀ s, R s s) (trans : ∀ {s t u}, R s t → R t u → R s u) :
    Guarantee σ where
  rel w w' := R w.store w'.store
  idle {w _} same _ := same ▸ refl w.store
  trans := trans

/-- The part `view` of the store does not change. -/
def framing {γ : Type} (view : σ → γ) : Guarantee σ :=
  onStore (fun s s' => view s' = view s) (fun _ => rfl) fun h h' => h'.trans h

/-- Store steps of `R`, any number of them. -/
def steps (R : σ → σ → Prop) : Guarantee σ :=
  onStore (Relation.ReflTransGen R) (fun _ => .refl) fun h h' => h.trans h'

end Guarantee

namespace Txn

/-- Every outcome of the call, returned or raised, is related to its start. -/
def Moves (G : Guarantee σ) (m : Txn ε σ α) : Prop :=
  ∀ w, w.Later (World.after (m w)) ∧ G.rel w (World.after (m w))

variable {G : Guarantee σ}

theorem Reads.moves {m : Txn ε σ α} (h : Reads m) : Moves G m := fun w => by
  rw [h w]
  exact ⟨.refl w, G.refl w⟩

theorem Moves.of_ok {m : Txn ε σ α} (hm : Moves G m) {w w' : World σ} {a : α}
    (h : m w = .ok a w') : w.Later w' ∧ G.rel w w' := by
  have moved := hm w
  rw [h] at moved
  exact moved

/-- Taking the first statement off a successful sequence, with what it has done. -/
theorem Moves.then {m : Txn ε σ α} (hm : Moves G m) {f : α → Txn ε σ β} {w w'' : World σ} {b : β}
    (h : (m >>= f) w = .ok b w'') :
    ∃ a w', m w = .ok a w' ∧ G.rel w w' ∧ f a w' = .ok b w'' := by
  obtain ⟨a, w', first, rest⟩ := bind_eq_ok.mp h
  exact ⟨a, w', first, (hm.of_ok first).2, rest⟩

theorem Moves.pure (a : α) : Moves G (pure a : Txn ε σ α) := (Reads.pure a).moves

theorem Moves.getStore : Moves G (getStore : Txn ε σ σ) := Reads.getStore.moves

theorem Moves.raise (e : ε) : Moves G (raise e : Txn ε σ α) := (Reads.raise e).moves

theorem Moves.raiseIf (c : Prop) [Decidable c] (e : ε) : Moves G (raiseIf c e : Txn ε σ Unit) :=
  (Reads.raiseIf c e).moves

theorem Moves.ofExcept (r : Except ε α) : Moves G (ofExcept r : Txn ε σ α) :=
  (Reads.ofExcept r).moves

theorem Moves.need (o : Option α) (e : ε) : Moves G (need o e : Txn ε σ α) :=
  (Reads.need o e).moves

/-- Checks that passed are known to the statement after them. -/
theorem Moves.bind_reads {m : Txn ε σ α} {f : α → Txn ε σ β} (hm : Reads m)
    (hf : ∀ w a, m w = .ok a w → w.Later (World.after (f a w)) ∧ G.rel w (World.after (f a w))) :
    Moves G (m >>= f) := by
  intro w
  cases h : m w with
  | ok a w' =>
      have here : w' = w := hm.world_eq h
      subst here
      rw [bind_of_ok h]
      exact hf w' a h
  | error e w' =>
      have same := hm w
      rw [h] at same
      have here : w' = w := same
      rw [bind_of_error h, here]
      exact ⟨.refl w, G.refl w⟩

theorem Moves.bind_of {P : α → Prop} {m : Txn ε σ α} {f : α → Txn ε σ β} (hm : Moves G m)
    (hP : Yields m P) (hf : ∀ a, P a → Moves G (f a)) : Moves G (m >>= f) := by
  intro w
  have first := hm w
  cases h : m w with
  | ok a w' =>
      rw [bind_of_ok h]
      rw [h] at first
      have rest := hf a (hP w a w' h) w'
      exact ⟨first.1.trans rest.1, G.trans first.2 rest.2⟩
  | error e w' =>
      rw [bind_of_error h]
      rw [h] at first
      exact first

theorem Moves.bind {m : Txn ε σ α} {f : α → Txn ε σ β} (hm : Moves G m)
    (hf : ∀ a, Moves G (f a)) : Moves G (m >>= f) :=
  hm.bind_of (Yields.true m) fun a _ => hf a

theorem Moves.atomic {m : Txn ε σ α} (hm : Moves G m) : Moves G (atomic m) := by
  intro w
  have body := hm w
  unfold Txn.atomic
  cases h : m w with
  | ok a w' =>
      rw [h] at body
      exact body
  | error e w' =>
      rw [h] at body
      exact ⟨body.1, G.idle rfl body.1⟩

theorem Moves.runIf {c : Prop} [Decidable c] {m : Txn ε σ Unit} (hm : c → Moves G m) :
    Moves G (runIf c m) := by
  unfold Txn.runIf
  split
  · next h => exact hm h
  · exact Moves.pure ()

theorem Moves.forEach {xs : List β} {f : β → Txn ε σ Unit} (hf : ∀ x ∈ xs, Moves G (f x)) :
    Moves G (forEach xs f) := by
  induction xs with
  | nil => exact Moves.pure ()
  | cons x rest ih =>
      have tail : Moves G (Txn.forEach rest f) := ih fun y hy => hf y (List.mem_cons_of_mem _ hy)
      exact Moves.bind (hf x List.mem_cons_self) fun _ => tail

theorem Moves.mono {G' : Guarantee σ} (h : ∀ {w w'}, G.rel w w' → G'.rel w w') {m : Txn ε σ α}
    (hm : Moves G m) : Moves G' m :=
  fun w => ⟨(hm w).1, h (hm w).2⟩

theorem Moves.map {m : Txn ε σ α} (f : α → β) (hm : Moves G m) : Moves G (f <$> m) := fun w => by
  have moved := hm w
  show w.Later (World.after (EStateM.map f m w)) ∧ G.rel w (World.after (EStateM.map f m w))
  unfold EStateM.map
  cases ran : m w with
  | ok a v => rwa [ran] at moved
  | error e v => rwa [ran] at moved

theorem Moves.discard {m : Txn ε σ α} (hm : Moves G m) : Moves G (discard m) :=
  hm.bind fun _ => Moves.pure ()

theorem Moves.of_discard {m : Txn ε σ α} (hm : Moves G (Functor.discard m)) : Moves G m :=
  fun w => after_discard m w ▸ hm w

/-- A program of one component moves the whole store by changes of that component. -/
theorem Moves.zoom {H : Guarantee τ} {get : τ → σ} {put : σ → τ → τ} {m : Txn ε σ α}
    (hm : Moves G m)
    (h : ∀ (w : World τ) (v : World σ), w.issued ≤ v.issued → w.reads ≤ v.reads →
      G.rel ⟨get w.store, w.issued, w.reads⟩ v →
      H.rel w ⟨put v.store w.store, v.issued, v.reads⟩) :
    Moves H (zoom get put m) := by
  intro w
  have inner := hm ⟨get w.store, w.issued, w.reads⟩
  unfold Txn.zoom
  cases hr : m ⟨get w.store, w.issued, w.reads⟩ with
  | ok a v =>
      rw [hr] at inner
      exact ⟨inner.1, h w v inner.1.1 inner.1.2 inner.2⟩
  | error e v =>
      rw [hr] at inner
      exact ⟨inner.1, h w v inner.1.1 inner.1.2 inner.2⟩

/-- A store update moves by `G` when it does so from every world. -/
theorem Moves.modifyStore {f : σ → σ}
    (h : ∀ w : World σ, G.rel w { w with store := f w.store }) :
    Moves G (modifyStore f : Txn ε σ Unit) :=
  fun w => ⟨⟨Nat.le_refl _, Nat.le_refl _⟩, h w⟩

theorem Moves.draw (gen : Nat → α) : Moves G (draw gen : Txn ε σ α) := fun w =>
  have later : w.Later { w with issued := w.issued + 1 } := ⟨Nat.le_succ _, Nat.le_refl _⟩
  ⟨later, G.idle rfl later⟩

theorem Moves.readClock (clock : Nat → α) : Moves G (readClock clock : Txn ε σ α) := fun w =>
  have later : w.Later { w with reads := w.reads + 1 } := ⟨Nat.le_refl _, Nat.le_succ _⟩
  ⟨later, G.idle rfl later⟩

/-! ## Reasoning from one world

`MovesAt G m w` is `Moves G m` at the world `w` only, so that what a read has found in
the store is known to the statements after it. -/

/-- Every outcome of the call from `w` is related to `w`. -/
def MovesAt (G : Guarantee σ) (m : Txn ε σ α) (w : World σ) : Prop :=
  w.Later (World.after (m w)) ∧ G.rel w (World.after (m w))

theorem MovesAt.bind {m : Txn ε σ α} {f : α → Txn ε σ β} {w : World σ} (hm : MovesAt G m w)
    (hf : ∀ a w', m w = .ok a w' → MovesAt G (f a) w') : MovesAt G (m >>= f) w := by
  unfold MovesAt at *
  cases h : m w with
  | ok a w' =>
      have rest := hf a w' h
      rw [h] at hm
      rw [bind_of_ok h]
      exact ⟨hm.1.trans rest.1, G.trans hm.2 rest.2⟩
  | error e w' =>
      rw [h] at hm
      rw [bind_of_error h]
      exact hm

theorem MovesAt.bind_reads {m : Txn ε σ α} {f : α → Txn ε σ β} {w : World σ} (hm : Reads m)
    (hf : ∀ a, m w = .ok a w → MovesAt G (f a) w) : MovesAt G (m >>= f) w :=
  MovesAt.bind (hm.moves w) fun a w' h => by
    obtain rfl := hm.world_eq h
    exact hf a h

theorem MovesAt.atomic {m : Txn ε σ α} {w : World σ} (hm : MovesAt G m w) :
    MovesAt G (Txn.atomic m) w := by
  unfold MovesAt Txn.atomic at *
  cases h : m w with
  | ok a w' =>
      rw [h] at hm
      exact hm
  | error e w' =>
      rw [h] at hm
      exact ⟨hm.1, G.idle rfl hm.1⟩

theorem MovesAt.catching {m : Txn ε σ α} {h : ε → Txn ε σ α} {w : World σ} (hm : MovesAt G m w)
    (hh : ∀ e, Moves G (h e)) : MovesAt G (Txn.catching m h) w := by
  unfold MovesAt Txn.catching at *
  cases hr : m w with
  | ok a w' =>
      rw [hr] at hm
      exact hm
  | error e w' =>
      rw [hr] at hm
      have handled := hh e w'
      exact ⟨hm.1.trans handled.1, G.trans hm.2 handled.2⟩

theorem Moves.catching {m : Txn ε σ α} {h : ε → Txn ε σ α} (hm : Moves G m)
    (hh : ∀ e, Moves G (h e)) : Moves G (Txn.catching m h) :=
  fun w => MovesAt.catching (hm w) hh

theorem MovesAt.modifyStore {f : σ → σ} {w : World σ}
    (h : G.rel w { w with store := f w.store }) :
    MovesAt G (Txn.modifyStore f : Txn ε σ Unit) w :=
  ⟨⟨Nat.le_refl _, Nat.le_refl _⟩, h⟩

/-! ## Calls that leave the store alone -/

/-- The call may use up identifiers and clock readings, but not change the store. -/
abbrev Idle (m : Txn ε σ α) : Prop := Moves (Guarantee.framing fun s : σ => s) m

theorem Idle.store_eq {m : Txn ε σ α} (hm : Idle m) {w w' : World σ} {a : α}
    (h : m w = .ok a w') : w'.store = w.store := by
  have moved : (World.after (m w)).store = w.store := (hm w).2
  rw [h] at moved
  exact moved

theorem Idle.then {m : Txn ε σ α} (hm : Idle m) {f : α → Txn ε σ β} {w w' : World σ} {b : β}
    (h : (m >>= f) w = .ok b w') :
    ∃ a v, m w = .ok a v ∧ v.store = w.store ∧ f a v = .ok b w' := by
  obtain ⟨a, v, ha, rest⟩ := bind_eq_ok.mp h
  exact ⟨a, v, ha, hm.store_eq ha, rest⟩

theorem Idle.moves {m : Txn ε σ α} (hm : Idle m) : Moves G m :=
  fun w => ⟨(hm w).1, G.idle (hm w).2 (hm w).1⟩

/-- Identifiers and clock readings before a call that rolls back. -/
theorem RollsBack.bind_idle {m : Txn ε σ α} {f : α → Txn ε σ β} (hm : Idle m)
    (hf : ∀ a, RollsBack (f a)) : RollsBack (m >>= f) := by
  constructor
  intro w w' e raised
  rcases bind_eq_error.mp raised with first | ⟨a, v, returned, second⟩
  · have moved : (World.after (m w)).store = w.store := (hm w).2
    rw [first] at moved
    exact moved
  · exact ((hf a).store_eq second).trans (hm.store_eq returned)

theorem MovesAt.bind_idle {m : Txn ε σ α} {f : α → Txn ε σ β} {w : World σ} (hm : Idle m)
    (hf : ∀ a w', m w = .ok a w' → w'.store = w.store → MovesAt G (f a) w') :
    MovesAt G (m >>= f) w :=
  MovesAt.bind (hm.moves w) fun a w' h => hf a w' h (hm.store_eq h)

/-- When the call raises, a view of the store is as the call found it. -/
structure RaisesFraming {γ : Type} (view : σ → γ) (m : Txn ε σ α) : Prop where
  view_eq : ∀ {w w' : World σ} {e : ε}, m w = .error e w' → view w'.store = view w.store

section Framing

variable {γ : Type} {view : σ → γ}

theorem Moves.raisesFraming {m : Txn ε σ α} (hm : Moves (Guarantee.framing view) m) :
    RaisesFraming view m := by
  constructor
  intro w w' e raised
  have moved := (hm w).2
  rw [raised] at moved
  exact moved

theorem RollsBack.raisesFraming {m : Txn ε σ α} (hm : RollsBack m) : RaisesFraming view m :=
  ⟨fun raised => congrArg view (hm.store_eq raised)⟩

/-- What keeps the view may come before. -/
theorem RaisesFraming.bind {m : Txn ε σ α} {f : α → Txn ε σ β}
    (hm : Moves (Guarantee.framing view) m) (hf : ∀ a, RaisesFraming view (f a)) :
    RaisesFraming view (m >>= f) := by
  constructor
  intro w w' e raised
  rcases bind_eq_error.mp raised with first | ⟨a, v, returned, second⟩
  · exact hm.raisesFraming.view_eq first
  · have kept : view v.store = view w.store := (hm.of_ok returned).2
    exact ((hf a).view_eq second).trans kept

/-- What cannot raise may come after. -/
theorem RaisesFraming.bind_pure {m : Txn ε σ α} (hm : RaisesFraming view m) {f : α → β} :
    RaisesFraming view (m >>= fun a => (Pure.pure (f a) : Txn ε σ β)) := by
  constructor
  intro w w' e raised
  rcases bind_eq_error.mp raised with first | ⟨a, v, -, second⟩
  · exact hm.view_eq first
  · cases second

end Framing

end Txn

/-- The results of a loop of checks are the results of the checks. -/
theorem mem_mapM_ok {α β ε : Type*} {f : α → Except ε β} {xs : List α} {ys : List β}
    (h : xs.mapM f = .ok ys) (y : β) : y ∈ ys ↔ ∃ x ∈ xs, f x = .ok y := by
  induction xs generalizing ys with
  | nil =>
      cases h
      simp
  | cons x rest ih =>
      rw [List.mapM_cons] at h
      cases first : f x with
      | error e =>
          rw [first] at h
          cases h
      | ok z =>
          rw [first] at h
          cases more : rest.mapM f with
          | error e =>
              rw [more] at h
              cases h
          | ok zs =>
              rw [more] at h
              cases h
              simp only [List.mem_cons, ih more, exists_eq_or_imp, first, Except.ok.injEq]
              exact or_congr_left eq_comm

/-- A view of the results of a loop of checks that each result takes from its item. -/
theorem map_mapM_ok {α β γ ε : Type*} {f : α → Except ε β} {view : β → γ} {of : α → γ}
    (each : ∀ {x y}, f x = .ok y → view y = of x) {xs : List α} {ys : List β}
    (h : xs.mapM f = .ok ys) : ys.map view = xs.map of := by
  induction xs generalizing ys with
  | nil =>
      cases h
      rfl
  | cons x rest ih =>
      rw [List.mapM_cons] at h
      cases first : f x with
      | error e =>
          rw [first] at h
          cases h
      | ok z =>
          rw [first] at h
          cases more : rest.mapM f with
          | error e =>
              rw [more] at h
              cases h
          | ok zs =>
              rw [more] at h
              cases h
              rw [List.map_cons, List.map_cons, each first, ih more]

end AgentCompanyOS.Foundation
