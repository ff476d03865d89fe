import AgentCompanyOS.Domain.Outcomes
import AgentCompanyOS.Runtime.Organization

/-!
# The reporting graph of an organization

The check of a version files the managers edge by edge and walks up from every agent that
has one. It accepts exactly the edges between registered agents that give every agent one
edge at most and whose chains are bounded; the walk needs no other test for a cycle.
-/

set_option autoImplicit false

namespace AgentCompanyOS.Runtime

open Foundation Domain

/-! ## Checks in order -/

theorem refuseIf_then {β : Type} {c : Prop} [Decidable c] {rule : String}
    {f : Unit → Except DomainError β} {b : β} :
    (refuseIf c rule >>= f) = .ok b ↔ ¬c ∧ f () = .ok b := by
  unfold refuseIf
  by_cases holds : c
  · simp [holds, bind, Except.bind]
  · simp [holds, bind, Except.bind]

theorem checkEach_eq_ok {α : Type} {check : α → Except DomainError Unit} {items : List α}
    {u : Unit} : checkEach check items = .ok u ↔ ∀ item ∈ items, check item = .ok () := by
  induction items with
  | nil => simp [checkEach]
  | cons item rest ih =>
      unfold checkEach
      cases checked : check item with
      | ok done =>
          simp only [List.forall_mem_cons, checked, true_and]
          exact ih
      | error e => simp [checked]

namespace OrganizationGraphVersion

variable {agents : List AgentDefinitionId} {depth : Nat} {reporting : List ReportingRelationship}
  {parents out : List (AgentDefinitionId × AgentDefinitionId)}

/-! ## The managers -/

/-- An edge as an entry of the dictionary. -/
abbrev entry (edge : ReportingRelationship) : AgentDefinitionId × AgentDefinitionId :=
  (edge.subordinate, edge.manager)

/-- The edges that the first loop files. -/
structure Fileable (agents : List AgentDefinitionId) (reporting : List ReportingRelationship) :
    Prop where
  registered : ∀ edge ∈ reporting, edge.subordinate ∈ agents ∧ edge.manager ∈ agents
  irreflexive : ∀ edge ∈ reporting, edge.subordinate ≠ edge.manager
  single : (reporting.map ReportingRelationship.subordinate).Nodup

theorem managers_eq_ok :
    managers agents reporting parents = .ok out ↔ Fileable agents reporting ∧
      (∀ edge ∈ reporting, edge.subordinate ∉ parents.map Prod.fst) ∧
      out = parents ++ reporting.map entry := by
  induction reporting generalizing parents with
  | nil =>
      constructor
      · intro filed
        cases filed
        exact ⟨⟨nofun, nofun, List.nodup_nil⟩, nofun, (List.append_nil _).symm⟩
      · rintro ⟨-, -, rfl⟩
        simp [managers]
  | cons edge rest ih =>
      have unfolded : managers agents (edge :: rest) parents = .ok out ↔
          (edge.subordinate ∈ agents ∧ edge.manager ∈ agents ∧
            edge.subordinate ≠ edge.manager) ∧ edge.subordinate ∉ parents.map Prod.fst ∧
          managers agents rest (parents ++ [entry edge]) = .ok out := by
        rw [managers, refuseIf_then, refuseIf_then]
        simp only [not_or, not_not, ne_eq]
      rw [unfolded, ih]
      simp only [List.map_append, List.map_cons, List.map_nil, List.mem_append,
        List.mem_singleton, not_or, List.append_assoc, List.singleton_append]
      constructor
      · rintro ⟨⟨sub, man, other⟩, fresh, ⟨registered, irreflexive, single⟩, apart, rfl⟩
        refine ⟨⟨?_, ?_, ?_⟩, ?_, rfl⟩
        · exact List.forall_mem_cons.mpr ⟨⟨sub, man⟩, registered⟩
        · exact List.forall_mem_cons.mpr ⟨other, irreflexive⟩
        · rw [List.map_cons, List.nodup_cons]
          refine ⟨fun mem => ?_, single⟩
          obtain ⟨later, mem, same⟩ := List.mem_map.mp mem
          exact (apart later mem).2 same
        · exact List.forall_mem_cons.mpr ⟨fresh, fun later mem => (apart later mem).1⟩
      · rintro ⟨⟨registered, irreflexive, single⟩, fresh, rfl⟩
        rw [List.map_cons, List.nodup_cons] at single
        refine ⟨⟨(registered edge List.mem_cons_self).1, (registered edge List.mem_cons_self).2,
          irreflexive edge List.mem_cons_self⟩, fresh edge List.mem_cons_self, ⟨?_, ?_, single.2⟩,
          fun later mem => ⟨fresh later (List.mem_cons_of_mem _ mem), fun same => ?_⟩, rfl⟩
        · exact fun later mem => registered later (List.mem_cons_of_mem _ mem)
        · exact fun later mem => irreflexive later (List.mem_cons_of_mem _ mem)
        · exact single.1 (List.mem_map.mpr ⟨later, mem, same⟩)

/-! ## Who reports to whom -/

/-- There is an edge from one agent to the other. -/
def Reports (reporting : List ReportingRelationship) (a b : AgentDefinitionId) : Prop :=
  ∃ edge ∈ reporting, edge.subordinate = a ∧ edge.manager = b

/-- The dictionary answers with the manager of an agent. -/
theorem lookup_iff (single : (reporting.map ReportingRelationship.subordinate).Nodup)
    {a b : AgentDefinitionId} :
    (reporting.map entry).lookup a = some b ↔ Reports reporting a b := by
  induction reporting with
  | nil => simp [Reports]
  | cons edge rest ih =>
      rw [List.map_cons, List.nodup_cons] at single
      rw [List.map_cons, List.lookup_cons]
      by_cases here : a = edge.subordinate
      · subst here
        simp only [beq_self_eq_true, Option.some.injEq]
        constructor
        · rintro rfl
          exact ⟨edge, List.mem_cons_self, rfl, rfl⟩
        · rintro ⟨other, mem, sub, rfl⟩
          rcases List.mem_cons.mp mem with rfl | mem
          · rfl
          · exact (single.1 (List.mem_map.mpr ⟨other, mem, sub⟩)).elim
      · simp only [beq_false_of_ne here]
        rw [ih single.2]
        constructor
        · rintro ⟨other, mem, sub, man⟩
          exact ⟨other, List.mem_cons_of_mem _ mem, sub, man⟩
        · rintro ⟨other, mem, sub, man⟩
          rcases List.mem_cons.mp mem with rfl | mem
          · exact (here sub.symm).elim
          · exact ⟨other, mem, sub, man⟩

/-- The edges as a relation: registered agents under one manager at most, in chains that are
short and run into no cycle. -/
structure ReportingForest (agents : List AgentDefinitionId) (depth : Nat)
    (reporting : List ReportingRelationship) : Prop where
  registered : ∀ edge ∈ reporting, edge.subordinate ∈ agents ∧ edge.manager ∈ agents
  irreflexive : ∀ edge ∈ reporting, edge.subordinate ≠ edge.manager
  oneManager : ∀ a b c, Reports reporting a b → Reports reporting a c → b = c
  acyclic : ∀ a, ¬Relation.TransGen (Reports reporting) a a
  shallow : ∀ chain : List AgentDefinitionId, chain.IsChain (Reports reporting) →
    chain.length ≤ depth + 1

theorem checkClimb_eq_ok {start : AgentDefinitionId} :
    checkClimb parents depth start = .ok () ↔
      ascend (parents.lookup ·) (depth + 1) start = none := by
  rw [← climb_start_iff]
  unfold checkClimb
  split <;> simp_all

/-- The walks from the agents with a manager are all that matter. -/
theorem walks_iff :
    (∀ start ∈ parents.map Prod.fst, ascend (parents.lookup ·) (depth + 1) start = none) ↔
      ∀ a, ascend (parents.lookup ·) (depth + 1) a = none := by
  refine ⟨fun walks a => ?_, fun walks a _ => walks a⟩
  cases found : parents.lookup a with
  | none => rw [ascend_succ, found, Option.bind_none]
  | some b =>
      obtain ⟨pre, post, same, -⟩ := List.lookup_eq_some_iff.mp found
      refine walks a (List.mem_map.mpr ⟨(a, b), ?_, rfl⟩)
      rw [same]
      exact List.mem_append_right _ List.mem_cons_self

/-- A subordinate is named once when it has one manager and no edge is listed twice. -/
theorem single_iff :
    (reporting.map ReportingRelationship.subordinate).Nodup ↔
      (∀ a b c, Reports reporting a b → Reports reporting a c → b = c) ∧
        (reporting.map entry).Nodup := by
  constructor
  · intro single
    refine ⟨fun a b c first second => ?_, ?_⟩
    · have found := (lookup_iff single).mpr first
      rw [(lookup_iff single).mpr second] at found
      exact (Option.some.inj found).symm
    · refine List.Nodup.of_map Prod.fst ?_
      rwa [List.map_map]
  · rintro ⟨oneManager, distinct⟩
    have keys : ((reporting.map entry).map Prod.fst).Nodup := by
      refine distinct.map_on ?_
      rintro ⟨a, b⟩ first ⟨a', c⟩ second rfl
      obtain ⟨edge, mem, same⟩ := List.mem_map.mp first
      obtain ⟨edge', mem', same'⟩ := List.mem_map.mp second
      obtain rfl : b = c := oneManager a b c
        ⟨edge, mem, congrArg Prod.fst same, congrArg Prod.snd same⟩
        ⟨edge', mem', congrArg Prod.fst same', congrArg Prod.snd same'⟩
      rfl
    rwa [List.map_map] at keys

/-- The edges are accepted when they can be filed and no walk is too long. -/
theorem checkReporting_eq_ok :
    checkReporting agents depth reporting = .ok () ↔ Fileable agents reporting ∧
      ∀ a, ascend ((reporting.map entry).lookup ·) (depth + 1) a = none := by
  unfold checkReporting
  cases filed : managers agents reporting [] with
  | error e =>
      constructor
      · exact nofun
      · rintro ⟨fileable, -⟩
        rw [managers_eq_ok.mpr ⟨fileable, fun _ _ => List.not_mem_nil, rfl⟩] at filed
        cases filed
  | ok parents =>
      obtain ⟨fileable, -, rfl⟩ := managers_eq_ok.mp filed
      show checkEach _ _ = .ok () ↔ _
      rw [checkEach_eq_ok]
      simp only [checkClimb_eq_ok, List.nil_append]
      rw [walks_iff]
      exact ⟨fun walks => ⟨fileable, walks⟩, fun h => h.2⟩

/-- The check terminates. It accepts the edges that are listed once each, between registered
agents, under one manager at most, in chains within the depth and without a cycle. -/
theorem reporting_accepted_iff (agents : List AgentDefinitionId) (depth : Nat)
    (reporting : List ReportingRelationship) :
    checkReporting agents depth reporting = .ok () ↔
      ReportingForest agents depth reporting ∧ (reporting.map entry).Nodup := by
  -- On edges that were filed, the dictionary is the relation.
  have same : (reporting.map ReportingRelationship.subordinate).Nodup →
      (fun a b => (reporting.map entry).lookup a = some b) = Reports reporting := by
    intro single
    funext a b
    exact propext (lookup_iff single)
  rw [checkReporting_eq_ok]
  constructor
  · rintro ⟨fileable, walks⟩
    obtain ⟨oneManager, distinct⟩ := single_iff.mp fileable.single
    refine ⟨⟨fileable.registered, fileable.irreflexive, oneManager, ?_, ?_⟩, distinct⟩
    · rw [← same fileable.single]
      exact acyclic_of_bounded walks
    · rw [← same fileable.single]
      exact chains_bounded_iff.mpr walks
  · rintro ⟨forest, distinct⟩
    have single := single_iff.mpr ⟨forest.oneManager, distinct⟩
    refine ⟨⟨forest.registered, forest.irreflexive, single⟩, chains_bounded_iff.mp ?_⟩
    have shallow := forest.shallow
    rw [← same single] at shallow
    exact shallow

/-! ### An edge listed twice -/

/-- One edge, listed twice. -/
def twiceListed : List ReportingRelationship :=
  let edge : ReportingRelationship :=
    ⟨numbered .workspace 0, numbered .agentDefinition 1, numbered .agentDefinition 2⟩
  [edge, edge]

/-- The relation of the edge is a forest, and the check refuses it. -/
theorem twice_listed_refused :
    ¬∀ (agents : List AgentDefinitionId) (depth : Nat) (reporting : List ReportingRelationship),
      checkReporting agents depth reporting = .ok () ↔ ReportingForest agents depth reporting := by
  intro claimed
  have edges : ∀ {a b}, Reports twiceListed a b →
      a = numbered .agentDefinition 1 ∧ b = numbered .agentDefinition 2 := by
    rintro a b ⟨edge, mem, rfl, rfl⟩
    simp only [twiceListed, List.mem_cons, List.not_mem_nil, or_false, or_self] at mem
    subst mem
    exact ⟨rfl, rfl⟩
  have apart : (numbered .agentDefinition 1 : AgentDefinitionId) ≠ numbered .agentDefinition 2 := by
    decide
  have forest : ReportingForest [numbered .agentDefinition 1, numbered .agentDefinition 2] 5
      twiceListed := by
    refine ⟨by decide, by decide, ?_, ?_, ?_⟩
    · intro a b c first second
      exact (edges first).2.trans (edges second).2.symm
    · intro a cycle
      obtain ⟨b, first, -⟩ := Relation.TransGen.head'_iff.mp cycle
      obtain ⟨c, -, last⟩ := Relation.TransGen.tail'_iff.mp cycle
      exact apart ((edges first).1.symm.trans (edges last).2)
    · rintro chain linked
      match chain, linked with
      | [], _ => decide
      | [_], _ => simp
      | [_, _], _ => simp
      | _ :: _ :: _ :: _, linked =>
          obtain ⟨first, linked⟩ := List.isChain_cons_cons.mp linked
          obtain ⟨second, -⟩ := List.isChain_cons_cons.mp linked
          exact (apart ((edges second).1.symm.trans (edges first).2)).elim
  have accepted := (claimed _ _ _).mpr forest
  revert accepted
  decide

end OrganizationGraphVersion

end AgentCompanyOS.Runtime
