import Mathlib.Logic.Relation
import Mathlib.Data.List.Range

/-!
# Journalled subjects

A journalled store keeps, next to the current status and version of every subject,
a log of the moves that led there and a log of marks that number its versions. A
subject is created once and then only moves along an allowed step, and each of the
two adds to the logs (`Journal.Step`). The logs of a sound journal replay every
subject from its creation status to its current one, mark every version exactly
once, and say nothing about subjects that do not exist (`Journal.Sound`).
Soundness is kept by every step and so by every run (`Journal.Sound.run`).
-/

set_option autoImplicit false

namespace AgentCompanyOS.Foundation

universe u v

variable {κ : Type u} {σ : Type v}

/-- One recorded change of a subject. -/
structure Move (κ : Type u) (σ : Type v) where
  subject : κ
  previous : σ
  next : σ
  fromVersion : Nat
  toVersion : Nat

/-- The moves lead without a gap from status `s` at version `v` to status `s'` at
version `v'`: every move starts where the one before it ended, raises the version
by one and is allowed. -/
def Replays (allowed : σ → σ → Prop) : σ → Nat → List (Move κ σ) → σ → Nat → Prop
  | s, v, [], s', v' => s = s' ∧ v = v'
  | s, v, m :: rest, s', v' =>
      m.previous = s ∧ m.fromVersion = v ∧ m.toVersion = v + 1 ∧ allowed s m.next ∧
        Replays allowed m.next m.toVersion rest s' v'

theorem Replays.append_one {allowed : σ → σ → Prop} {s s' : σ} {v v' : Nat}
    {ms : List (Move κ σ)} (h : Replays allowed s v ms s' v') {m : Move κ σ}
    (hp : m.previous = s') (hf : m.fromVersion = v') (ht : m.toVersion = v' + 1)
    (ha : allowed s' m.next) : Replays allowed s v (ms ++ [m]) m.next (v' + 1) := by
  induction ms generalizing s v with
  | nil =>
      obtain ⟨rfl, rfl⟩ := h
      exact ⟨hp, hf, ht, ha, rfl, ht⟩
  | cons x rest ih =>
      obtain ⟨h₁, h₂, h₃, h₄, h₅⟩ := h
      exact ⟨h₁, h₂, h₃, h₄, ih h₅⟩

/-- Current statuses and versions with the two logs. -/
structure Journal (κ : Type u) (σ : Type v) where
  current : κ → Option (σ × Nat)
  moves : List (Move κ σ)
  marks : List (κ × Nat)

namespace Journal

variable [DecidableEq κ] (initial : κ → σ) (allowed : κ → σ → σ → Prop)

/-- The moves of one subject in log order. -/
def movesOf (j : Journal κ σ) (k : κ) : List (Move κ σ) := j.moves.filter (·.subject = k)

/-- The versions marked for one subject in log order. -/
def marksOf (j : Journal κ σ) (k : κ) : List Nat :=
  (j.marks.filter (·.1 = k)).map Prod.snd

/-- What a write may do: create one subject or move one subject. -/
inductive Step (j j' : Journal κ σ) : Prop where
  | created (k : κ) (absent : j.current k = none)
      (current : ∀ k', j'.current k' = if k' = k then some (initial k, 1) else j.current k')
      (moves : j'.moves = j.moves) (marks : j'.marks = j.marks ++ [(k, 1)])
  | moved (m : Move κ σ) (present : j.current m.subject = some (m.previous, m.fromVersion))
      (increment : m.toVersion = m.fromVersion + 1) (legal : allowed m.subject m.previous m.next)
      (current : ∀ k', j'.current k' =
        if k' = m.subject then some (m.next, m.toVersion) else j.current k')
      (moves : j'.moves = j.moves ++ [m]) (marks : j'.marks = j.marks ++ [(m.subject, m.toVersion)])

/-- The logs account for exactly the current statuses and versions. -/
structure Sound (j : Journal κ σ) : Prop where
  replays : ∀ k s v, j.current k = some (s, v) →
    Replays (allowed k) (initial k) 1 (j.movesOf k) s v
  marks : ∀ k s v, j.current k = some (s, v) → j.marksOf k = List.range' 1 v
  noMoves : ∀ k, j.current k = none → j.movesOf k = []
  noMarks : ∀ k, j.current k = none → j.marksOf k = []

variable {initial allowed}

theorem movesOf_append (j : Journal κ σ) (m : Move κ σ) (ms : List (Move κ σ))
    (h : ms = j.moves ++ [m]) (k : κ) :
    ms.filter (·.subject = k) = j.movesOf k ++ if m.subject = k then [m] else [] := by
  subst h
  by_cases hk : m.subject = k <;> simp [movesOf, List.filter_append, hk]

theorem marksOf_append (j : Journal κ σ) (k₀ : κ) (v : Nat) (ms : List (κ × Nat))
    (h : ms = j.marks ++ [(k₀, v)]) (k : κ) :
    (ms.filter (·.1 = k)).map Prod.snd = j.marksOf k ++ if k₀ = k then [v] else [] := by
  subst h
  by_cases hk : k₀ = k <;> simp [marksOf, List.filter_append, hk]

theorem Sound.created {j j' : Journal κ σ} (h : Sound initial allowed j) {k : κ}
    (absent : j.current k = none)
    (current : ∀ k', j'.current k' = if k' = k then some (initial k, 1) else j.current k')
    (moves : j'.moves = j.moves) (marks : j'.marks = j.marks ++ [(k, 1)]) :
    Sound initial allowed j' := by
  have sameMoves : ∀ k', j'.movesOf k' = j.movesOf k' := fun k' => by
    rw [movesOf, moves, movesOf]
  have newMarks : ∀ k', j'.marksOf k' = j.marksOf k' ++ if k = k' then [1] else [] :=
    marksOf_append j k 1 _ marks
  refine ⟨fun k' s v hc => ?_, fun k' s v hc => ?_, fun k' hc => ?_, fun k' hc => ?_⟩
  all_goals rw [current] at hc
  all_goals by_cases hk : k' = k
  · subst hk
    obtain ⟨rfl, rfl⟩ : initial k' = s ∧ 1 = v := by simpa using hc
    rw [sameMoves, h.noMoves k' absent]
    exact ⟨rfl, rfl⟩
  · rw [if_neg hk] at hc
    rw [sameMoves]
    exact h.replays k' s v hc
  · subst hk
    obtain ⟨rfl, rfl⟩ : initial k' = s ∧ 1 = v := by simpa using hc
    rw [newMarks, h.noMarks k' absent]
    simp
  · rw [if_neg hk] at hc
    rw [newMarks, h.marks k' s v hc, if_neg (Ne.symm hk), List.append_nil]
  · simp [hk] at hc
  · rw [if_neg hk] at hc
    rw [sameMoves]
    exact h.noMoves k' hc
  · simp [hk] at hc
  · rw [if_neg hk] at hc
    rw [newMarks, h.noMarks k' hc, if_neg (Ne.symm hk), List.append_nil]

theorem Sound.moved {j j' : Journal κ σ} (h : Sound initial allowed j) {m : Move κ σ}
    (present : j.current m.subject = some (m.previous, m.fromVersion))
    (increment : m.toVersion = m.fromVersion + 1) (legal : allowed m.subject m.previous m.next)
    (current : ∀ k', j'.current k' =
      if k' = m.subject then some (m.next, m.toVersion) else j.current k')
    (moves : j'.moves = j.moves ++ [m])
    (marks : j'.marks = j.marks ++ [(m.subject, m.toVersion)]) :
    Sound initial allowed j' := by
  have newMoves : ∀ k', j'.movesOf k' = j.movesOf k' ++ if m.subject = k' then [m] else [] :=
    movesOf_append j m _ moves
  have newMarks : ∀ k',
      j'.marksOf k' = j.marksOf k' ++ if m.subject = k' then [m.toVersion] else [] :=
    marksOf_append j m.subject m.toVersion _ marks
  refine ⟨fun k' s v hc => ?_, fun k' s v hc => ?_, fun k' hc => ?_, fun k' hc => ?_⟩
  all_goals rw [current] at hc
  all_goals by_cases hk : k' = m.subject
  · subst hk
    obtain ⟨rfl, rfl⟩ : m.next = s ∧ m.toVersion = v := by simpa using hc
    rw [newMoves, if_pos rfl, increment]
    exact (h.replays _ _ _ present).append_one rfl rfl increment legal
  · rw [if_neg hk] at hc
    rw [newMoves, if_neg (Ne.symm hk), List.append_nil]
    exact h.replays k' s v hc
  · subst hk
    obtain ⟨rfl, rfl⟩ : m.next = s ∧ m.toVersion = v := by simpa using hc
    rw [newMarks, if_pos rfl, h.marks _ _ _ present, increment, List.range'_1_concat]
    simp [Nat.add_comm]
  · rw [if_neg hk] at hc
    rw [newMarks, h.marks k' s v hc, if_neg (Ne.symm hk), List.append_nil]
  · simp [hk] at hc
  · rw [if_neg hk] at hc
    rw [newMoves, h.noMoves k' hc, if_neg (Ne.symm hk), List.append_nil]
  · simp [hk] at hc
  · rw [if_neg hk] at hc
    rw [newMarks, h.noMarks k' hc, if_neg (Ne.symm hk), List.append_nil]

/-- Every write keeps the journal sound. -/
theorem Sound.step {j j' : Journal κ σ} (h : Sound initial allowed j)
    (st : Step initial allowed j j') : Sound initial allowed j' := by
  cases st with
  | created k absent current moves marks => exact h.created absent current moves marks
  | moved m present increment legal current moves marks =>
      exact h.moved present increment legal current moves marks

/-- Every run of writes keeps the journal sound. -/
theorem Sound.run {j j' : Journal κ σ} (h : Sound initial allowed j)
    (r : Relation.ReflTransGen (Step initial allowed) j j') : Sound initial allowed j' := by
  induction r with
  | refl => exact h
  | tail _ st ih => exact ih.step st

end Journal

end AgentCompanyOS.Foundation
