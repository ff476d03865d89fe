import Mathlib.Data.List.Chain
import Mathlib.Data.Set.Finite.List
import Mathlib.Logic.Relation
import Mathlib.Order.WellFounded

/-!
# Depth-first search with memoized depths

A search from a list of nodes that measures the longest path from each of them and stops
at a cycle or at a path over a limit. The search is a relation: a derivation of it is a
search that has come to its end. It returns exactly when the graph has no cycle and no
path over the limit.
-/

set_option autoImplicit false

namespace AgentCompanyOS.Foundation

variable {α : Type}

/-! ## Graphs -/

/-- There is an edge from `a` to each node of `graph a`. -/
def Edge (graph : α → List α) (a b : α) : Prop := b ∈ graph a

/-- No node of the list leads back to itself. -/
def AcyclicOn (graph : α → List α) (nodes : List α) : Prop :=
  ∀ a ∈ nodes, ¬Relation.TransGen (Edge graph) a a

/-- A path among the nodes of the list has at most `limit` of them. -/
def DepthWithin (graph : α → List α) (nodes : List α) (limit : Nat) : Prop :=
  ∀ path : List α, (∀ a ∈ path, a ∈ nodes) → path.IsChain (Edge graph) → path.length ≤ limit

/-- No edge leaves the list. -/
def Closed (graph : α → List α) (nodes : List α) : Prop := ∀ a ∈ nodes, ∀ b ∈ graph a, b ∈ nodes

/-- Among the nodes that satisfy `P` one has no edge to another of them. -/
theorem AcyclicOn.exists_minimal {graph : α → List α} {nodes : List α}
    (acyclic : AcyclicOn graph nodes) {P : α → Prop} {a : α} (mem : a ∈ nodes) (holds : P a) :
    ∃ b ∈ nodes, P b ∧ ∀ c ∈ nodes, c ∈ graph b → ¬P c := by
  let below : {x // x ∈ nodes} → {x // x ∈ nodes} → Prop :=
    fun x y => Relation.TransGen (Edge graph) y.1 x.1
  have : Finite {x // x ∈ nodes} := List.finite_toSet nodes
  have : IsTrans {x // x ∈ nodes} below := ⟨fun _ _ _ first second => second.trans first⟩
  have : Std.Irrefl below := ⟨fun x => acyclic x.1 x.2⟩
  have wellFounded : WellFounded below := Finite.wellFounded_of_trans_of_irrefl below
  obtain ⟨b, here, minimal⟩ := wellFounded.has_min {x | P x.1} ⟨⟨a, mem⟩, holds⟩
  exact ⟨b.1, b.2, here, fun c inside edge held => minimal ⟨c, inside⟩ held (.single edge)⟩

/-! ## Known depths -/

section Lookup

variable [BEq α] [LawfulBEq α] {depths : List (α × Nat)} {a b : α} {d e : Nat}

theorem lookup_cons_ne (other : b ≠ a) : ((a, d) :: depths).lookup b = depths.lookup b := by
  rw [List.lookup_cons, beq_false_of_ne other]

/-- What was known is known beside a new entry. -/
theorem lookup_cons_of_absent (absent : depths.lookup a = none)
    (known : depths.lookup b = some e) : ((a, d) :: depths).lookup b = some e := by
  have other : b ≠ a := by
    rintro rfl
    cases absent.symm.trans known
  rw [lookup_cons_ne other]
  exact known

end Lookup

/-! ## The search -/

/-- Why a search stops. -/
inductive Stop where
  | cycle
  | deep
deriving DecidableEq

section Search

variable [BEq α]

/-- A search of `nodes` in order: `visiting` is the path to them, `best` the largest depth
so far, and `depths` holds the depths that are known. -/
inductive Search (graph : α → List α) (limit : Nat) :
    List α → List α → Nat → List (α × Nat) → Except Stop (Nat × List (α × Nat)) → Prop
  | finished {visiting : List α} {best : Nat} {depths : List (α × Nat)} :
      Search graph limit visiting [] best depths (.ok (best, depths))
  | cycle {visiting rest : List α} {node : α} {best : Nat} {depths : List (α × Nat)}
      (again : node ∈ visiting) : Search graph limit visiting (node :: rest) best depths
        (.error .cycle)
  | known {visiting rest : List α} {node : α} {best depth : Nat} {depths : List (α × Nat)}
      {r : Except Stop (Nat × List (α × Nat))} (fresh : node ∉ visiting)
      (found : depths.lookup node = some depth)
      (next : Search graph limit visiting rest (max best depth) depths r) :
      Search graph limit visiting (node :: rest) best depths r
  | stopped {visiting rest : List α} {node : α} {best : Nat} {depths : List (α × Nat)}
      {stop : Stop} (fresh : node ∉ visiting) (unknown : depths.lookup node = none)
      (inner : Search graph limit (node :: visiting) (graph node) 0 depths (.error stop)) :
      Search graph limit visiting (node :: rest) best depths (.error stop)
  | deep {visiting rest : List α} {node : α} {best above : Nat} {depths mid : List (α × Nat)}
      (fresh : node ∉ visiting) (unknown : depths.lookup node = none)
      (inner : Search graph limit (node :: visiting) (graph node) 0 depths (.ok (above, mid)))
      (exceeds : limit < 1 + above) :
      Search graph limit visiting (node :: rest) best depths (.error .deep)
  | measured {visiting rest : List α} {node : α} {best above : Nat}
      {depths mid : List (α × Nat)} {r : Except Stop (Nat × List (α × Nat))}
      (fresh : node ∉ visiting) (unknown : depths.lookup node = none)
      (inner : Search graph limit (node :: visiting) (graph node) 0 depths (.ok (above, mid)))
      (within : ¬limit < 1 + above)
      (next : Search graph limit visiting rest (max best (1 + above)) ((node, 1 + above) :: mid)
        r) :
      Search graph limit visiting (node :: rest) best depths r

/-- A search has one result. -/
theorem Search.unique {graph : α → List α} {limit : Nat} {visiting nodes : List α} {best : Nat}
    {depths : List (α × Nat)} {r r' : Except Stop (Nat × List (α × Nat))}
    (h : Search graph limit visiting nodes best depths r)
    (h' : Search graph limit visiting nodes best depths r') : r' = r := by
  induction h generalizing r' with
  | finished =>
      cases h'
      rfl
  | cycle again =>
      cases h' with
      | cycle => rfl
      | known fresh | stopped fresh | deep fresh | measured fresh => exact (fresh again).elim
  | known fresh found _ ih =>
      cases h' with
      | cycle again => exact (fresh again).elim
      | known _ found' next =>
          obtain rfl := Option.some.inj (found.symm.trans found')
          exact ih next
      | stopped _ unknown | deep _ unknown | measured _ unknown =>
          cases unknown.symm.trans found
  | stopped fresh unknown _ ih =>
      cases h' with
      | cycle again => exact (fresh again).elim
      | known _ found => cases unknown.symm.trans found
      | stopped _ _ inner =>
          cases ih inner
          rfl
      | deep _ _ inner | measured _ _ inner => cases ih inner
  | deep fresh unknown _ exceeds ih =>
      cases h' with
      | cycle again => exact (fresh again).elim
      | known _ found => cases unknown.symm.trans found
      | stopped _ _ inner => cases ih inner
      | deep => rfl
      | measured _ _ inner within =>
          cases ih inner
          exact (within exceeds).elim
  | measured fresh unknown _ within _ ih ih' =>
      cases h' with
      | cycle again => exact (fresh again).elim
      | known _ found => cases unknown.symm.trans found
      | stopped _ _ inner => cases ih inner
      | deep _ _ inner exceeds =>
          cases ih inner
          exact (within exceeds).elim
      | measured _ _ inner _ next =>
          cases ih inner
          exact ih' next

end Search

/-! ## What a search that returns has measured -/

section Measured

variable [BEq α] [LawfulBEq α] {graph : α → List α} {limit best : Nat}
  {visiting nodes : List α} {depths : List (α × Nat)}

/-- A search keeps the depths that are known, and gives none to a node on its path. -/
structure Keeps (visiting : List α) (depths depths' : List (α × Nat)) : Prop where
  known : ∀ {a : α} {d : Nat}, depths.lookup a = some d → depths'.lookup a = some d
  path : ∀ {a : α}, a ∈ visiting → depths.lookup a = none → depths'.lookup a = none

theorem Search.keeps {r : Except Stop (Nat × List (α × Nat))}
    (h : Search graph limit visiting nodes best depths r) {best' : Nat}
    {depths' : List (α × Nat)} (returns : r = .ok (best', depths')) :
    Keeps visiting depths depths' := by
  induction h generalizing best' depths' with
  | finished =>
      cases returns
      exact ⟨id, fun _ absent => absent⟩
  | cycle | stopped | deep => cases returns
  | known _ _ _ ih => exact ih returns
  | @measured visiting rest node best above depths mid r fresh unknown _ _ _ ih ih' =>
      have first := ih rfl
      have second := ih' returns
      have absent : mid.lookup node = none := first.path List.mem_cons_self unknown
      constructor
      · intro a d known
        exact second.known (lookup_cons_of_absent absent (first.known known))
      · intro a here none
        apply second.path here
        rw [lookup_cons_ne (fun same : a = node => fresh (same ▸ here))]
        exact first.path (List.mem_cons_of_mem _ here) none

/-- The known depths are positive, within the limit and above the depths of the nodes that
an edge leads to. -/
def Ranked (graph : α → List α) (limit : Nat) (depths : List (α × Nat)) : Prop :=
  ∀ a d, depths.lookup a = some d →
    1 ≤ d ∧ d ≤ limit ∧ ∀ b ∈ graph a, ∃ e, depths.lookup b = some e ∧ e < d

theorem Ranked.cons {above : Nat} {node : α} (ranked : Ranked graph limit depths)
    (absent : depths.lookup node = none) (within : ¬limit < 1 + above)
    (measured : ∀ b ∈ graph node, ∃ e, depths.lookup b = some e ∧ e ≤ above) :
    Ranked graph limit ((node, 1 + above) :: depths) := by
  intro a d known
  by_cases same : a = node
  · subst same
    rw [List.lookup_cons_self] at known
    obtain rfl := Option.some.inj known
    refine ⟨by omega, by omega, fun b edge => ?_⟩
    obtain ⟨e, found, below⟩ := measured b edge
    exact ⟨e, lookup_cons_of_absent absent found, by omega⟩
  · rw [lookup_cons_ne same] at known
    obtain ⟨positive, bound, edges⟩ := ranked a d known
    refine ⟨positive, bound, fun b edge => ?_⟩
    obtain ⟨e, found, below⟩ := edges b edge
    exact ⟨e, lookup_cons_of_absent absent found, below⟩

/-- The search ranks what it has measured, and it has measured all its nodes. -/
theorem Search.ranked {r : Except Stop (Nat × List (α × Nat))}
    (h : Search graph limit visiting nodes best depths r) {best' : Nat}
    {depths' : List (α × Nat)} (returns : r = .ok (best', depths'))
    (ranked : Ranked graph limit depths) :
    Ranked graph limit depths' ∧ best ≤ best' ∧
      ∀ a ∈ nodes, ∃ d, depths'.lookup a = some d ∧ d ≤ best' := by
  induction h generalizing best' depths' with
  | finished =>
      cases returns
      exact ⟨ranked, Nat.le_refl _, fun _ mem => (List.not_mem_nil mem).elim⟩
  | cycle | stopped | deep => cases returns
  | @known visiting rest node best depth depths r fresh found next ih =>
      obtain ⟨after, larger, measured⟩ := ih returns ranked
      refine ⟨after, by omega, fun a mem => ?_⟩
      rcases List.mem_cons.mp mem with rfl | old
      · exact ⟨depth, (next.keeps returns).known found, by omega⟩
      · exact measured a old
  | @measured visiting rest node best above depths mid r fresh unknown inner within next ih ih' =>
      obtain ⟨between, -, parents⟩ := ih rfl ranked
      have absent : mid.lookup node = none :=
        (inner.keeps rfl).path List.mem_cons_self unknown
      obtain ⟨after, larger, measured⟩ := ih' returns (between.cons absent within parents)
      refine ⟨after, by omega, fun a mem => ?_⟩
      rcases List.mem_cons.mp mem with rfl | old
      · exact ⟨1 + above, (next.keeps returns).known List.lookup_cons_self, by omega⟩
      · exact measured a old

omit [LawfulBEq α] in
/-- Along the edges from a ranked node the depths go down. -/
theorem Ranked.descends (ranked : Ranked graph limit depths) {a b : α} {d : Nat}
    (known : depths.lookup a = some d) (leads : Relation.TransGen (Edge graph) a b) :
    ∃ e, depths.lookup b = some e ∧ e < d := by
  induction leads with
  | single edge => exact (ranked a d known).2.2 _ edge
  | tail _ edge ih =>
      obtain ⟨e, found, below⟩ := ih
      obtain ⟨e', found', below'⟩ := (ranked _ e found).2.2 _ edge
      exact ⟨e', found', by omega⟩

omit [LawfulBEq α] in
/-- A path from a ranked node is no longer than its depth. -/
theorem Ranked.length_le (ranked : Ranked graph limit depths) {a : α} {rest : List α} {d : Nat}
    (known : depths.lookup a = some d) (chain : (a :: rest).IsChain (Edge graph)) :
    (a :: rest).length ≤ d := by
  induction rest generalizing a d with
  | nil => exact (ranked a d known).1
  | cons b rest ih =>
      obtain ⟨edge, chain⟩ := List.isChain_cons_cons.mp chain
      obtain ⟨e, found, below⟩ := (ranked a d known).2.2 b edge
      have := ih found chain
      simp only [List.length_cons] at this ⊢
      omega

/-- Every known depth is the length of a path from the node, among `all`. -/
def Attained (graph : α → List α) (all : List α) (depths : List (α × Nat)) : Prop :=
  ∀ a d, depths.lookup a = some d →
    ∃ rest, (a :: rest).IsChain (Edge graph) ∧ (∀ b ∈ a :: rest, b ∈ all) ∧
      (a :: rest).length = d

variable {all : List α}

theorem Attained.cons {above : Nat} {node : α} (attained : Attained graph all depths)
    (inside : node ∈ all)
    (highest : above = 0 ∨ ∃ b ∈ graph node, depths.lookup b = some above) :
    Attained graph all ((node, 1 + above) :: depths) := by
  intro a d known
  by_cases same : a = node
  · subst same
    rw [List.lookup_cons_self] at known
    obtain rfl := Option.some.inj known
    rcases highest with rfl | ⟨b, edge, found⟩
    · refine ⟨[], .singleton _, fun b mem => ?_, rfl⟩
      rw [List.mem_singleton.mp mem]
      exact inside
    · obtain ⟨rest, chain, among, length⟩ := attained b above found
      refine ⟨b :: rest, List.isChain_cons_cons.mpr ⟨edge, chain⟩, fun c mem => ?_, ?_⟩
      · rcases List.mem_cons.mp mem with rfl | old
        · exact inside
        · exact among c old
      · rw [List.length_cons, length]
        omega
  · rw [lookup_cons_ne same] at known
    exact attained a d known

/-- What the search has measured is attained, and the result is the depth of one of its
nodes where it is not the one it began with. -/
theorem Search.attained {r : Except Stop (Nat × List (α × Nat))}
    (h : Search graph limit visiting nodes best depths r) {best' : Nat}
    {depths' : List (α × Nat)} (returns : r = .ok (best', depths')) (closed : Closed graph all)
    (inside : ∀ a ∈ nodes, a ∈ all) (attained : Attained graph all depths) :
    Attained graph all depths' ∧
      (best' = best ∨ ∃ a ∈ nodes, depths'.lookup a = some best') := by
  induction h generalizing best' depths' with
  | finished =>
      cases returns
      exact ⟨attained, .inl rfl⟩
  | cycle | stopped | deep => cases returns
  | @known visiting rest node best depth depths r fresh found next ih =>
      obtain ⟨after, highest⟩ := ih returns (fun a mem => inside a (List.mem_cons_of_mem _ mem))
        attained
      refine ⟨after, ?_⟩
      rcases highest with same | ⟨a, mem, highest⟩
      · rcases Nat.le_total best depth with larger | larger
        · refine .inr ⟨node, List.mem_cons_self, ?_⟩
          rw [same, Nat.max_eq_right larger]
          exact (next.keeps returns).known found
        · exact .inl (same.trans (Nat.max_eq_left larger))
      · exact .inr ⟨a, List.mem_cons_of_mem _ mem, highest⟩
  | @measured visiting rest node best above depths mid r fresh unknown inner within next ih ih' =>
      have here : node ∈ all := inside node List.mem_cons_self
      obtain ⟨between, above'⟩ := ih rfl (closed node here) attained
      obtain ⟨after, highest⟩ := ih' returns (fun a mem => inside a (List.mem_cons_of_mem _ mem))
        (between.cons here above')
      refine ⟨after, ?_⟩
      rcases highest with same | ⟨a, mem, highest⟩
      · rcases Nat.le_total best (1 + above) with larger | larger
        · refine .inr ⟨node, List.mem_cons_self, ?_⟩
          rw [same, Nat.max_eq_right larger]
          exact (next.keeps returns).known List.lookup_cons_self
        · exact .inl (same.trans (Nat.max_eq_left larger))
      · exact .inr ⟨a, List.mem_cons_of_mem _ mem, highest⟩

/-- A search of a graph without cycles and without paths over the limit does not stop. -/
theorem Search.returns {r : Except Stop (Nat × List (α × Nat))}
    (h : Search graph limit visiting nodes best depths r) (closed : Closed graph all)
    (acyclic : AcyclicOn graph all) (within : DepthWithin graph all limit)
    (inside : ∀ a ∈ nodes, a ∈ all) (attained : Attained graph all depths)
    (path : ∀ v ∈ visiting, ∀ a ∈ nodes, Relation.TransGen (Edge graph) v a) :
    ∃ answer, r = .ok answer := by
  induction h with
  | finished => exact ⟨_, rfl⟩
  | @cycle visiting rest node best depths again =>
      have here : node ∈ all := inside node List.mem_cons_self
      exact (acyclic node here (path node again node List.mem_cons_self)).elim
  | known _ _ _ ih =>
      exact ih (fun a mem => inside a (List.mem_cons_of_mem _ mem)) attained
        fun v here a mem => path v here a (List.mem_cons_of_mem _ mem)
  | @stopped visiting rest node best depths stop _ _ _ ih =>
      have here : node ∈ all := inside node List.mem_cons_self
      obtain ⟨answer, returned⟩ := ih (closed node here) attained fun v onPath a edge => by
        rcases List.mem_cons.mp onPath with rfl | old
        · exact .single edge
        · exact .tail (path v old node List.mem_cons_self) edge
      cases returned
  | @deep visiting rest node best above depths mid _ _ inner exceeds ih =>
      -- A path of that length begins at the node.
      have here : node ∈ all := inside node List.mem_cons_self
      obtain ⟨between, above'⟩ := inner.attained rfl closed (closed node here) attained
      obtain ⟨rest, chain, among, length⟩ := between.cons here above' node (1 + above)
        List.lookup_cons_self
      have bound := within _ among chain
      omega
  | @measured visiting rest node best above depths mid r _ _ inner _ _ ih ih' =>
      have here : node ∈ all := inside node List.mem_cons_self
      obtain ⟨between, above'⟩ := inner.attained rfl closed (closed node here) attained
      exact ih' (fun a mem => inside a (List.mem_cons_of_mem _ mem)) (between.cons here above')
        fun v onPath a mem => path v onPath a (List.mem_cons_of_mem _ mem)

/-- A search of all nodes of a closed graph returns exactly when the graph has no cycle and
no path over the limit. -/
theorem Search.exact {r : Except Stop (Nat × List (α × Nat))}
    (h : Search graph limit [] all 0 [] r) (closed : Closed graph all) :
    (∃ answer, r = .ok answer) ↔ AcyclicOn graph all ∧ DepthWithin graph all limit := by
  have nothing : ∀ (P : α → Nat → Prop) a d, ([] : List (α × Nat)).lookup a = some d → P a d :=
    fun _ _ _ known => by cases known
  constructor
  · rintro ⟨⟨best', depths'⟩, returned⟩
    obtain ⟨ranked, -, measured⟩ := h.ranked returned (nothing _)
    constructor
    · intro a mem leads
      obtain ⟨d, known, -⟩ := measured a mem
      obtain ⟨e, known', below⟩ := ranked.descends known leads
      obtain rfl := Option.some.inj (known.symm.trans known')
      exact Nat.lt_irrefl _ below
    · intro path among chain
      cases path with
      | nil => exact Nat.zero_le _
      | cons a rest =>
          obtain ⟨d, known, -⟩ := measured a (among a List.mem_cons_self)
          exact (ranked.length_le known chain).trans (ranked a d known).2.1
  · rintro ⟨acyclic, within⟩
    exact h.returns closed acyclic within (fun _ mem => mem) (nothing _)
      fun _ onPath => (List.not_mem_nil onPath).elim

end Measured

end AgentCompanyOS.Foundation
