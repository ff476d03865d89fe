import AgentCompanyOS.Foundation.Looking
import Mathlib.Data.List.Forall2

/-!
# One question to two stores

`Alike E s t m n R` compares two programs that only read, the first asked in the store `s`
and the second in the store `t`: both return, values that `R` relates, or both raise,
exceptions with the property `E`. It composes over the statements of the programs; what a
statement finds in one store alone enters through `Looks`.

With equality for `R` this is isolation: whoever asks cannot tell the stores apart.
-/

set_option autoImplicit false

namespace AgentCompanyOS.Foundation.Txn

variable {ε σ τ α β γ δ : Type}

/-- Two answers: related values, or exceptions with a property. -/
def Both (E : ε → Prop) (R : α → β → Prop) : Except ε α → Except ε β → Prop
  | .ok a, .ok b => R a b
  | .error e, .error f => E e ∧ E f
  | _, _ => False

/-- Asked in two stores, the programs answer alike, and the stores are as they were. -/
def Alike (E : ε → Prop) (s t : σ) (m : Txn ε σ α) (n : Txn ε σ β) (R : α → β → Prop) : Prop :=
  ∀ w v : World σ, w.store = s → v.store = t →
    (World.after (m w)).store = s ∧ (World.after (n v)).store = t ∧
      Both E R (World.answer (m w)) (World.answer (n v))

namespace Alike

variable {E : ε → Prop} {s t : σ} {R : α → β → Prop} {m : Txn ε σ α} {n : Txn ε σ β}

/-- Either both programs return or both raise. -/
theorem outcomes (h : Alike E s t m n R) {w v : World σ} (here : w.store = s)
    (there : v.store = t) :
    (∃ a b w' v', m w = .ok a w' ∧ n v = .ok b v' ∧ w'.store = s ∧ v'.store = t ∧ R a b) ∨
      ∃ e f w' v', m w = .error e w' ∧ n v = .error f v' ∧ w'.store = s ∧ v'.store = t ∧
        E e ∧ E f := by
  obtain ⟨kept, kept', both⟩ := h w v here there
  cases one : m w with
  | ok a w' =>
      rw [one] at kept both
      cases other : n v with
      | ok b v' =>
          rw [other] at kept' both
          exact .inl ⟨a, b, w', v', rfl, rfl, kept, kept', both⟩
      | error f v' =>
          rw [other] at both
          exact both.elim
  | error e w' =>
      rw [one] at kept both
      cases other : n v with
      | ok b v' =>
          rw [other] at both
          exact both.elim
      | error f v' =>
          rw [other] at kept' both
          exact .inr ⟨e, f, w', v', rfl, rfl, kept, kept', both⟩

/-- Two programs that return in their stores. -/
theorem of_looks {P : α → Prop} {Q : β → Prop} (hm : Looks s m P) (hn : Looks t n Q)
    (related : ∀ a b, P a → Q b → R a b) : Alike E s t m n R := by
  intro w v here there
  obtain ⟨a, w', ok, kept, holds⟩ := hm w here
  obtain ⟨b, v', ok', kept', holds'⟩ := hn v there
  rw [ok, ok']
  exact ⟨kept, kept', related a b holds holds'⟩

/-- Two programs with known answers. -/
theorem of_answers {P : Except ε α → Prop} {Q : Except ε β → Prop} (hm : Answers s m P)
    (hn : Answers t n Q) (both : ∀ r r', P r → Q r' → Both E R r r') : Alike E s t m n R := by
  intro w v here there
  obtain ⟨kept, holds⟩ := hm w here
  obtain ⟨kept', holds'⟩ := hn v there
  exact ⟨kept, kept', both _ _ holds holds'⟩

theorem pure {a : α} {b : β} (related : R a b) :
    Alike E s t (pure a : Txn ε σ α) (pure b) R :=
  fun _ _ here there => ⟨here, there, related⟩

theorem getStore : Alike E s t (getStore : Txn ε σ σ) getStore fun a b => a = s ∧ b = t :=
  fun _ _ here there => ⟨here, there, here, there⟩

theorem raise {e f : ε} (first : E e) (second : E f) :
    Alike E s t (raise e : Txn ε σ α) (raise f : Txn ε σ β) R :=
  fun _ _ here there => ⟨here, there, first, second⟩

theorem mono {S : α → β → Prop} (h : Alike E s t m n R) (wider : ∀ a b, R a b → S a b) :
    Alike E s t m n S := by
  intro w v here there
  rcases h.outcomes here there with ⟨a, b, w', v', one, other, kept, kept', related⟩ |
    ⟨e, f, w', v', one, other, kept, kept', first, second⟩
  · rw [one, other]
    exact ⟨kept, kept', wider a b related⟩
  · rw [one, other]
    exact ⟨kept, kept', first, second⟩

theorem bind {S : γ → δ → Prop} {f : α → Txn ε σ γ} {g : β → Txn ε σ δ}
    (h : Alike E s t m n R) (rest : ∀ a b, R a b → Alike E s t (f a) (g b) S) :
    Alike E s t (m >>= f) (n >>= g) S := by
  intro w v here there
  rcases h.outcomes here there with ⟨a, b, w', v', one, other, kept, kept', related⟩ |
    ⟨e, e', w', v', one, other, kept, kept', first, second⟩
  · rw [bind_of_ok one, bind_of_ok other]
    exact rest a b related w' v' kept kept'
  · rw [bind_of_error one, bind_of_error other]
    exact ⟨kept, kept', first, second⟩

theorem need {o : Option α} {p : Option β} {e f : ε} (first : E e) (second : E f)
    (found : ∀ a b, o = some a → p = some b → R a b) (absent : o = none ↔ p = none) :
    Alike E s t (need o e : Txn ε σ α) (need p f : Txn ε σ β) R := by
  cases o with
  | none =>
      cases p with
      | none => exact raise first second
      | some b => exact absurd (absent.mp rfl) nofun
  | some a =>
      cases p with
      | none => exact absurd (absent.mpr rfl) nofun
      | some b => exact pure (found a b rfl rfl)

theorem atomic (h : Alike E s t m n R) : Alike E s t (atomic m) (atomic n) R := by
  intro w v here there
  unfold Txn.atomic
  rcases h.outcomes here there with ⟨a, b, w', v', one, other, kept, kept', related⟩ |
    ⟨e, f, w', v', one, other, -, -, first, second⟩
  · rw [one, other]
    exact ⟨kept, kept', related⟩
  · rw [one, other]
    exact ⟨here, there, first, second⟩

theorem zoom {s t : τ} {get : τ → σ} {put : σ → τ → τ} (first : put (get s) s = s)
    (second : put (get t) t = t) (h : Alike E (get s) (get t) m n R) :
    Alike E s t (zoom get put m) (zoom get put n) R := by
  intro w v here there
  subst here there
  unfold Txn.zoom
  rcases h.outcomes (w := ⟨get w.store, w.issued, w.reads⟩)
      (v := ⟨get v.store, v.issued, v.reads⟩) rfl rfl with
    ⟨a, b, w', v', one, other, kept, kept', related⟩ |
    ⟨e, f, w', v', one, other, kept, kept', known, known'⟩
  · rw [one, other]
    exact ⟨(congrArg (put · w.store) kept).trans first,
      (congrArg (put · v.store) kept').trans second, related⟩
  · rw [one, other]
    exact ⟨(congrArg (put · w.store) kept).trans first,
      (congrArg (put · v.store) kept').trans second, known, known'⟩

/-- A record is looked up and checked before it is used. Where both stores have one that
passes, the rest decides; otherwise both programs raise. -/
theorem guarded {S : γ → δ → Prop} {get : Txn ε σ α} {get' : Txn ε σ α} {o p : Option α}
    {q c : α → Prop} [DecidablePred c] {e f : ε} {g : α → ε} {k : α → Txn ε σ γ}
    {l : α → Txn ε σ δ} (first : Answers s get (· = o.elim (.error e) .ok))
    (second : Answers t get' (· = p.elim (.error f) .ok)) (absent : E e ∧ E f)
    (refusal : ∀ x, E (g x)) (refuses : ∀ x, c x ↔ ¬q x)
    (same : (∃ x ∈ o, q x) ↔ ∃ y ∈ p, q y)
    (rest : ∀ x ∈ o, ∀ y ∈ p, q x → q y → Alike E s t (k x) (l y) S) :
    Alike E s t (get >>= fun x => raiseIf (c x) (g x) >>= fun _ => k x)
      (get' >>= fun y => raiseIf (c y) (g y) >>= fun _ => l y) S := by
  -- A store in which no record passes raises.
  have refused {u : σ} {ζ : Type} {look : Txn ε σ α} {r : Option α} {d : ε}
      {next : α → Txn ε σ ζ} (known : E d) (asked : Answers u look (· = r.elim (.error d) .ok))
      (foreign : ¬∃ x ∈ r, q x) :
      Answers u (look >>= fun x => raiseIf (c x) (g x) >>= fun _ => next x)
        fun r => ∃ d, r = .error d ∧ E d := by
    cases r with
    | none => exact asked.bind_error ⟨d, rfl, known⟩
    | some x =>
        refine asked.bind_ok ?_
        have fails : c x := (refuses x).mpr fun passes => foreign ⟨x, rfl, passes⟩
        exact Answers.bind_error (Answers.raiseIf_of fails _) ⟨_, rfl, refusal x⟩
  by_cases own : ∃ x ∈ o, q x
  · obtain ⟨y, rfl, there⟩ := same.mp own
    obtain ⟨x, rfl, here⟩ := own
    have found : Alike E s t get get' fun a b => a = x ∧ b = y := by
      refine of_answers first second ?_
      rintro _ _ rfl rfl
      exact ⟨rfl, rfl⟩
    refine found.bind ?_
    rintro a b ⟨rfl, rfl⟩
    have passed : Alike E s t (raiseIf (c a) (g a)) (raiseIf (c b) (g b)) fun _ _ => True := by
      refine of_looks (Looks.raiseIf ?_) (Looks.raiseIf ?_) fun _ _ _ _ => trivial
      · exact fun fails => (refuses a).mp fails here
      · exact fun fails => (refuses b).mp fails there
    exact passed.bind fun _ _ _ => rest a rfl b rfl here there
  · refine of_answers (refused absent.1 first own)
      (refused absent.2 second fun other => own (same.mpr other)) ?_
    rintro _ _ ⟨d, rfl, known⟩ ⟨d', rfl, known'⟩
    exact ⟨known, known'⟩

/-- Two lists of visits, visit by visit. -/
theorem gather {S : List γ → List δ → Prop} {xs : List α} {ys : List β}
    {f : α → Txn ε σ (List γ)} {g : β → Txn ε σ (List δ)} (empty : S [] [])
    (append : ∀ a b c d, S a b → S c d → S (a ++ c) (b ++ d))
    (visits : List.Forall₂ (fun x y => Alike E s t (f x) (g y) S) xs ys) :
    Alike E s t (gather xs f) (gather ys g) S := by
  induction visits with
  | nil => exact pure empty
  | cons visit rest ih =>
      refine visit.bind fun first first' one => ?_
      refine ih.bind fun others others' other => ?_
      exact pure (append _ _ _ _ one other)

end Alike

end AgentCompanyOS.Foundation.Txn
