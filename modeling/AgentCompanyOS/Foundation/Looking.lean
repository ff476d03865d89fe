import AgentCompanyOS.Foundation.Transaction

/-!
# Programs that only look

A report is a program that reads its store, may read the clock, and returns a value from
every state that it is asked in. `Looks s m P` says so of one store `s`: whatever the
counters are, `m` returns a value with the property `P` and leaves the store as it is. It
composes over the statements of the program, and over a list of visits (`gather`).

A choice is a program that looks and may raise. `Answers s m S` says that on the store `s`
its answer, a value or what it raised, has the property `S`. For a program whose answer
depends on the clock, `AnswersAt s n m S` says so of a start after `n` readings, and `S` is a
property of the answer and of the number of readings at the end.
-/

set_option autoImplicit false

namespace AgentCompanyOS.Foundation.Txn

variable {ε σ τ α β γ : Type}

/-- Visit a list in order and gather what the visits return. -/
def gather (xs : List α) (f : α → Txn ε σ (List β)) : Txn ε σ (List β) :=
  match xs with
  | [] => pure []
  | x :: rest => do
      let first ← f x
      let others ← gather rest f
      pure (first ++ others)

/-- The program returns a value with a property, and the store is as it was. -/
def Looks (s : σ) (m : Txn ε σ α) (P : α → Prop) : Prop :=
  ∀ w : World σ, w.store = s → ∃ a w', m w = .ok a w' ∧ w'.store = s ∧ P a

section Rules

variable {s : σ} {P : α → Prop}

theorem Looks.pure {a : α} (h : P a) : Looks s (pure a : Txn ε σ α) P :=
  fun w same => ⟨a, w, rfl, same, h⟩

theorem Looks.mono {Q : α → Prop} {m : Txn ε σ α} (hm : Looks s m P) (h : ∀ a, P a → Q a) :
    Looks s m Q := by
  intro w same
  obtain ⟨a, w', ok, kept, holds⟩ := hm w same
  exact ⟨a, w', ok, kept, h a holds⟩

theorem Looks.bind {m : Txn ε σ α} {f : α → Txn ε σ β} {Q : β → Prop} (hm : Looks s m P)
    (hf : ∀ a, P a → Looks s (f a) Q) : Looks s (m >>= f) Q := by
  intro w same
  obtain ⟨a, v, ok, kept, holds⟩ := hm w same
  obtain ⟨b, w', ok', kept', holds'⟩ := hf a holds v kept
  exact ⟨b, w', (bind_of_ok ok f).trans ok', kept', holds'⟩

theorem Looks.getStore : Looks s (getStore : Txn ε σ σ) (· = s) :=
  fun w same => ⟨w.store, w, rfl, same, same⟩

theorem Looks.readClock (clock : Nat → α) : Looks s (readClock clock : Txn ε σ α) fun _ => True :=
  fun w same => ⟨clock w.reads, _, rfl, same, trivial⟩

theorem Looks.need {o : Option α} {e : ε} {a : α} (found : o = some a) :
    Looks s (need o e : Txn ε σ α) (· = a) :=
  fun w same => ⟨a, w, need_of_some found w, same, rfl⟩

theorem Looks.raiseIf {c : Prop} [Decidable c] {e : ε} (passed : ¬c) :
    Looks s (raiseIf c e : Txn ε σ Unit) fun _ => True :=
  fun w same => ⟨(), w, raiseIf_of_not passed w, same, trivial⟩

theorem Looks.atomic {m : Txn ε σ α} (hm : Looks s m P) : Looks s (atomic m) P := by
  intro w same
  obtain ⟨a, w', ok, kept, holds⟩ := hm w same
  exact ⟨a, w', atomic_eq_ok.mpr ok, kept, holds⟩

theorem Looks.zoom {t : τ} {get : τ → σ} {put : σ → τ → τ} (lawful : put (get t) t = t)
    {m : Txn ε σ α} (hm : Looks (get t) m P) : Looks t (zoom get put m) P := by
  intro w same
  subst same
  obtain ⟨a, v, ok, kept, holds⟩ := hm ⟨get w.store, w.issued, w.reads⟩ rfl
  refine ⟨a, _, zoom_eq_ok.mpr ⟨v, ok, rfl⟩, ?_, holds⟩
  show put v.store w.store = w.store
  rw [kept, lawful]

/-- What the visits return, seen through `view`, is what each one returns by itself. -/
theorem Looks.gather {xs : List α} {f : α → Txn ε σ (List β)} {view : β → γ} {g : α → List γ}
    (h : ∀ x ∈ xs, Looks s (f x) fun ys => ys.map view = g x) :
    Looks s (gather xs f) fun ys => ys.map view = xs.flatMap g := by
  induction xs with
  | nil => exact .pure rfl
  | cons x rest ih =>
      refine (h x List.mem_cons_self).bind fun first seen => ?_
      refine (ih fun y mem => h y (List.mem_cons_of_mem _ mem)).bind fun others seen' => ?_
      apply Looks.pure
      rw [List.map_append, seen, seen', List.flatMap_cons]

end Rules

/-! ## Programs that look and may raise -/

/-- The answer of the program has a property, and the store is as it was. -/
def Answers (s : σ) (m : Txn ε σ α) (S : Except ε α → Prop) : Prop :=
  ∀ w : World σ, w.store = s → (World.after (m w)).store = s ∧ S (World.answer (m w))

section Rules

variable {s : σ} {S : Except ε α → Prop}

theorem Answers.pure {a : α} (h : S (.ok a)) : Answers s (pure a : Txn ε σ α) S :=
  fun _ same => ⟨same, h⟩

theorem Answers.mono {S' : Except ε α → Prop} {m : Txn ε σ α} (hm : Answers s m S)
    (h : ∀ r, S r → S' r) : Answers s m S' := by
  intro w same
  obtain ⟨kept, holds⟩ := hm w same
  exact ⟨kept, h _ holds⟩

theorem Answers.getStore : Answers s (getStore : Txn ε σ σ) (· = .ok s) := by
  intro w same
  refine ⟨same, ?_⟩
  show Except.ok w.store = .ok s
  rw [same]

theorem Answers.need (o : Option α) (e : ε) :
    Answers s (need o e : Txn ε σ α) (· = o.elim (.error e) .ok) := by
  intro w same
  cases o with
  | none => exact ⟨same, rfl⟩
  | some a => exact ⟨same, rfl⟩

theorem Answers.raiseIf (c : Prop) [Decidable c] (e : ε) :
    Answers s (raiseIf c e : Txn ε σ Unit) (· = if c then .error e else .ok ()) := by
  intro w same
  by_cases holds : c
  · rw [raiseIf_of holds, if_pos holds]
    exact ⟨same, rfl⟩
  · rw [raiseIf_of_not holds, if_neg holds]
    exact ⟨same, rfl⟩

theorem Answers.raiseIf_of {c : Prop} [Decidable c] (holds : c) (e : ε) :
    Answers s (Txn.raiseIf c e : Txn ε σ Unit) (· = .error e) :=
  (Answers.raiseIf c e).mono fun _ same => same.trans (if_pos holds)

theorem Answers.raiseIf_of_not {c : Prop} [Decidable c] (fails : ¬c) (e : ε) :
    Answers s (Txn.raiseIf c e : Txn ε σ Unit) (· = .ok ()) :=
  (Answers.raiseIf c e).mono fun _ same => same.trans (if_neg fails)

theorem Answers.bind {T : Except ε β → Prop} {m : Txn ε σ α} {f : α → Txn ε σ β}
    (hm : Answers s m S) (hf : ∀ a, S (.ok a) → Answers s (f a) T)
    (he : ∀ e, S (.error e) → T (.error e)) : Answers s (m >>= f) T := by
  intro w same
  obtain ⟨kept, holds⟩ := hm w same
  rw [bind_apply]
  cases ran : m w with
  | ok a v =>
      rw [ran] at kept holds
      exact hf a holds v kept
  | error e v =>
      rw [ran] at kept holds
      exact ⟨kept, he e holds⟩

theorem Answers.bind_ok {T : Except ε β → Prop} {m : Txn ε σ α} {f : α → Txn ε σ β} {a : α}
    (hm : Answers s m (· = .ok a)) (hf : Answers s (f a) T) : Answers s (m >>= f) T := by
  refine hm.bind (fun b same => ?_) nofun
  cases same
  exact hf

theorem Answers.bind_error {T : Except ε β → Prop} {m : Txn ε σ α} {f : α → Txn ε σ β} {e : ε}
    (hm : Answers s m (· = .error e)) (he : T (.error e)) : Answers s (m >>= f) T := by
  refine hm.bind nofun fun e' same => ?_
  cases same
  exact he

theorem Answers.zoom {t : τ} {get : τ → σ} {put : σ → τ → τ} (lawful : put (get t) t = t)
    {m : Txn ε σ α} (hm : Answers (get t) m S) : Answers t (zoom get put m) S := by
  intro w same
  subst same
  obtain ⟨kept, holds⟩ := hm ⟨get w.store, w.issued, w.reads⟩ rfl
  unfold Txn.zoom
  cases ran : m ⟨get w.store, w.issued, w.reads⟩ with
  | ok a v =>
      rw [ran] at kept holds
      exact ⟨(congrArg (fun u => put u w.store) kept).trans lawful, holds⟩
  | error e v =>
      rw [ran] at kept holds
      exact ⟨(congrArg (fun u => put u w.store) kept).trans lawful, holds⟩

end Rules

/-! ## Programs that read the clock -/

/-- Asked after `n` readings of the clock, the program has an answer and a number of readings
with a property, and the store is as it was. -/
def AnswersAt (s : σ) (n : Nat) (m : Txn ε σ α) (S : Except ε α → Nat → Prop) : Prop :=
  ∀ w : World σ, w.store = s → w.reads = n →
    (World.after (m w)).store = s ∧ S (World.answer (m w)) (World.after (m w)).reads

section Rules

variable {s : σ} {n : Nat} {S : Except ε α → Nat → Prop}

/-- A program that does not read the clock answers alike after all readings. -/
theorem Answers.at {P : Except ε α → Prop} {m : Txn ε σ α} (hm : Answers s m P) (reads : Reads m)
    (n : Nat) : AnswersAt s n m fun r k => P r ∧ k = n := by
  intro w same count
  obtain ⟨kept, holds⟩ := hm w same
  refine ⟨kept, holds, ?_⟩
  rw [reads w, count]

theorem AnswersAt.pure {a : α} (h : S (.ok a) n) : AnswersAt s n (pure a : Txn ε σ α) S := by
  intro w same count
  subst count
  exact ⟨same, h⟩

theorem AnswersAt.raise {e : ε} (h : S (.error e) n) : AnswersAt s n (raise e : Txn ε σ α) S := by
  intro w same count
  subst count
  exact ⟨same, h⟩

theorem AnswersAt.mono {S' : Except ε α → Nat → Prop} {m : Txn ε σ α} (hm : AnswersAt s n m S)
    (h : ∀ r k, S r k → S' r k) : AnswersAt s n m S' := by
  intro w same count
  obtain ⟨kept, holds⟩ := hm w same count
  exact ⟨kept, h _ _ holds⟩

theorem AnswersAt.bind {T : Except ε β → Nat → Prop} {m : Txn ε σ α} {f : α → Txn ε σ β}
    (hm : AnswersAt s n m S) (hf : ∀ a k, S (.ok a) k → AnswersAt s k (f a) T)
    (he : ∀ e k, S (.error e) k → T (.error e) k) : AnswersAt s n (m >>= f) T := by
  intro w same count
  obtain ⟨kept, holds⟩ := hm w same count
  rw [bind_apply]
  cases ran : m w with
  | ok a v =>
      rw [ran] at kept holds
      exact hf a v.reads holds v kept rfl
  | error e v =>
      rw [ran] at kept holds
      exact ⟨kept, he e v.reads holds⟩

theorem AnswersAt.catching {T : Except ε α → Nat → Prop} {m : Txn ε σ α} {h : ε → Txn ε σ α}
    (hm : AnswersAt s n m S) (ok : ∀ a k, S (.ok a) k → T (.ok a) k)
    (hh : ∀ e k, S (.error e) k → AnswersAt s k (h e) T) : AnswersAt s n (catching m h) T := by
  intro w same count
  obtain ⟨kept, holds⟩ := hm w same count
  unfold Txn.catching
  cases ran : m w with
  | ok a v =>
      rw [ran] at kept holds
      exact ⟨kept, ok a v.reads holds⟩
  | error e v =>
      rw [ran] at kept holds
      exact hh e v.reads holds v kept rfl

/-- What a program that returned has answered. -/
theorem AnswersAt.of_ok {m : Txn ε σ α} {w w' : World σ} {a : α}
    (hm : AnswersAt w.store w.reads m S) (h : m w = .ok a w') :
    w'.store = w.store ∧ S (.ok a) w'.reads := by
  obtain ⟨kept, holds⟩ := hm w rfl rfl
  rw [h] at kept holds
  exact ⟨kept, holds⟩

/-- A program whose answer can only be a value returns it. -/
theorem AnswersAt.returns {m : Txn ε σ α} {a : α} {w : World σ}
    (hm : AnswersAt w.store w.reads m fun r _ => r = .ok a) : ∃ w', m w = .ok a w' := by
  obtain ⟨-, holds⟩ := hm w rfl rfl
  cases ran : m w with
  | ok b v =>
      rw [ran] at holds
      cases holds
      exact ⟨v, rfl⟩
  | error e v =>
      rw [ran] at holds
      cases holds

end Rules

end AgentCompanyOS.Foundation.Txn
