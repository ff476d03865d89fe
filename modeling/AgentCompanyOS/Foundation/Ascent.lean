import Mathlib.Logic.Relation
import Mathlib.Data.List.Chain

/-!
# Climbing a functional graph

Every node has at most one parent. `climb` walks upwards from a node, remembers where it
has been, and gives up on a node that it has seen or when it has left more nodes than a
depth allows. It reaches the top exactly when no way up from the node has more edges than
that depth; the way up of a graph whose ways are bounded has no cycle.
-/

set_option autoImplicit false

namespace AgentCompanyOS.Foundation

variable {α : Type*}

/-! ## Ancestors -/

/-- The ancestor a number of edges up. -/
def ascend (parent : α → Option α) : Nat → α → Option α
  | 0, a => some a
  | n + 1, a => (parent a).bind (ascend parent n)

@[simp] theorem ascend_zero (parent : α → Option α) (a : α) : ascend parent 0 a = some a := rfl

theorem ascend_succ (parent : α → Option α) (n : Nat) (a : α) :
    ascend parent (n + 1) a = (parent a).bind (ascend parent n) := rfl

theorem ascend_add (parent : α → Option α) (m n : Nat) (a : α) :
    ascend parent (m + n) a = (ascend parent m a).bind (ascend parent n) := by
  induction m generalizing a with
  | zero => simp
  | succ m ih =>
      rw [Nat.succ_add, ascend_succ, ascend_succ, Option.bind_assoc]
      congr 1
      funext b
      exact ih b

/-- Nothing is above the top. -/
theorem ascend_none_of_le {parent : α → Option α} {m n : Nat} {a : α}
    (top : ascend parent m a = none) (le : m ≤ n) : ascend parent n a = none := by
  obtain ⟨k, rfl⟩ := Nat.exists_eq_add_of_le le
  rw [ascend_add, top, Option.bind_none]

/-- A node that is its own ancestor has ancestors at every height. -/
theorem ascend_of_cycle {parent : α → Option α} {p : Nat} {a : α}
    (cycle : ascend parent (p + 1) a = some a) (n : Nat) : ascend parent n a ≠ none := by
  have laps : ∀ q, ascend parent (q * (p + 1)) a = some a := by
    intro q
    induction q with
    | zero => simp
    | succ q ih => rw [Nat.succ_mul, ascend_add, ih, Option.bind_some, cycle]
  intro top
  have above := ascend_none_of_le top (Nat.le_mul_of_pos_right n (Nat.succ_pos p))
  rw [laps n] at above
  cases above

/-! ## Chains -/

/-- A list of nodes, each the parent of the one before it. -/
abbrev Chain (parent : α → Option α) (chain : List α) : Prop :=
  chain.IsChain fun a b => parent a = some b

theorem Chain.ascend {parent : α → Option α} {a : α} {rest : List α}
    (chain : Chain parent (a :: rest)) : ascend parent rest.length a ≠ none := by
  induction rest generalizing a with
  | nil => simp
  | cons b rest ih =>
      obtain ⟨edge, chain⟩ := List.isChain_cons_cons.mp chain
      rw [List.length_cons, ascend_succ, edge]
      exact ih chain

/-- The ancestors of a node up to a height form a chain. -/
theorem exists_chain {parent : α → Option α} {n : Nat} {a : α}
    (up : Foundation.ascend parent n a ≠ none) :
    ∃ rest, Chain parent (a :: rest) ∧ rest.length = n := by
  induction n generalizing a with
  | zero => exact ⟨[], List.isChain_singleton _, rfl⟩
  | succ n ih =>
      rw [ascend_succ] at up
      cases edge : parent a with
      | none => simp [edge] at up
      | some b =>
          rw [edge, Option.bind_some] at up
          obtain ⟨rest, chain, length⟩ := ih up
          exact ⟨b :: rest, List.isChain_cons_cons.mpr ⟨edge, chain⟩, by simp [length]⟩

/-- No chain has more edges than the depth exactly when no node has an ancestor above it. -/
theorem chains_bounded_iff {parent : α → Option α} {depth : Nat} :
    (∀ chain, Chain parent chain → chain.length ≤ depth + 1) ↔
      ∀ a, Foundation.ascend parent (depth + 1) a = none := by
  constructor
  · intro bounded a
    by_contra up
    obtain ⟨rest, chain, length⟩ := exists_chain up
    have := bounded _ chain
    rw [List.length_cons] at this
    omega
  · intro top chain linked
    cases chain with
    | nil => exact Nat.zero_le _
    | cons a rest =>
        by_contra long
        rw [List.length_cons] at long
        exact Chain.ascend linked (ascend_none_of_le (top a) (by omega))

/-- The strict ancestors are those at some height. -/
theorem transGen_iff_ascend {parent : α → Option α} {a b : α} :
    Relation.TransGen (fun a b => parent a = some b) a b ↔
      ∃ n, Foundation.ascend parent (n + 1) a = some b := by
  constructor
  · intro up
    induction up with
    | single edge => exact ⟨0, by rw [ascend_succ, edge]; rfl⟩
    | tail _ edge ih =>
        obtain ⟨n, at'⟩ := ih
        refine ⟨n + 1, ?_⟩
        rw [ascend_add, at', Option.bind_some, ascend_succ, edge]
        rfl
  · rintro ⟨n, up⟩
    induction n generalizing a with
    | zero =>
        rw [ascend_succ] at up
        obtain ⟨c, edge, same⟩ := Option.bind_eq_some_iff.mp up
        rw [ascend_zero] at same
        exact .single (same ▸ edge)
    | succ n ih =>
        rw [ascend_succ] at up
        obtain ⟨c, edge, up⟩ := Option.bind_eq_some_iff.mp up
        exact .head edge (ih up)

/-- Where the ways up are bounded, no node is its own ancestor. -/
theorem acyclic_of_bounded {parent : α → Option α} {depth : Nat}
    (bounded : ∀ a, Foundation.ascend parent (depth + 1) a = none) (a : α) :
    ¬Relation.TransGen (fun a b => parent a = some b) a a := by
  intro cycle
  obtain ⟨p, cycle⟩ := transGen_iff_ascend.mp cycle
  exact ascend_of_cycle cycle (depth + 1) (bounded a)

/-! ## The walk -/

/-- How a walk ends. -/
inductive Climb where
  | top | cycle | deep
deriving DecidableEq

/-- The nodes that a walk has left lead to the node where it stands. -/
def Trail (parent : α → Option α) (node : α) (seen : List α) : Prop :=
  (node :: seen).IsChain fun later earlier => parent earlier = some later

theorem Trail.cycle {parent : α → Option α} {node : α} {seen : List α}
    (trail : Trail parent node seen) {a : α} (mem : a ∈ seen) :
    ∃ p, Foundation.ascend parent (p + 1) a = some node := by
  induction seen generalizing node with
  | nil => cases mem
  | cons b rest ih =>
      obtain ⟨edge, trail⟩ := List.isChain_cons_cons.mp trail
      rcases List.mem_cons.mp mem with rfl | mem
      · exact ⟨0, by rw [ascend_succ, edge]; rfl⟩
      · obtain ⟨p, up⟩ := ih trail mem
        refine ⟨p + 1, ?_⟩
        rw [ascend_add, up, Option.bind_some, ascend_succ, edge]
        rfl

variable [DecidableEq α]

/-- Walk up from a node; `seen` are the nodes that were left. -/
def climb (parent : α → Option α) (depth : Nat) (seen : List α) (node : α) : Climb :=
  match parent node with
  | none => .top
  | some next =>
      if node ∈ seen then .cycle
      else if depth < (node :: seen).length then .deep
      else climb parent depth (node :: seen) next
termination_by depth - seen.length
decreasing_by
  rename_i shallow
  rw [List.length_cons] at *
  omega

/-- A walk that has left `seen` reaches the top exactly when nothing is above the rest of
the depth. -/
theorem climb_eq_top_iff {parent : α → Option α} {depth : Nat} {seen : List α} {node : α}
    (trail : Trail parent node seen) (room : seen.length ≤ depth) :
    climb parent depth seen node = .top ↔
      Foundation.ascend parent (depth + 1 - seen.length) node = none := by
  induction seen, node using climb.induct parent depth with
  | case1 seen node edge =>
      unfold climb
      rw [edge, show depth + 1 - seen.length = depth - seen.length + 1 by omega, ascend_succ, edge]
      simp
  | case2 seen node next edge mem =>
      unfold climb
      obtain ⟨p, cycle⟩ := trail.cycle mem
      simp [edge, mem, ascend_of_cycle cycle]
  | case3 seen node next edge fresh deep =>
      unfold climb
      rw [List.length_cons] at deep
      rw [show depth + 1 - seen.length = 1 by omega, ascend_succ, edge]
      simp [fresh, deep]
  | case4 seen node next edge fresh shallow ih =>
      unfold climb
      rw [edge, show depth + 1 - seen.length = depth + 1 - (node :: seen).length + 1 by
        rw [List.length_cons] at *; omega, ascend_succ, edge, Option.bind_some]
      simp only [fresh, shallow, if_false]
      exact ih (List.isChain_cons_cons.mpr ⟨edge, trail⟩) (Nat.le_of_not_lt shallow)

/-- A walk from a node reaches the top exactly when the way up has at most `depth` edges. -/
theorem climb_start_iff {parent : α → Option α} {depth : Nat} {node : α} :
    climb parent depth [] node = .top ↔ Foundation.ascend parent (depth + 1) node = none :=
  climb_eq_top_iff (List.isChain_singleton _) (Nat.zero_le _)

end AgentCompanyOS.Foundation
