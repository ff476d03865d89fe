import AgentCompanyOS.Foundation.Looking
import AgentCompanyOS.Orchestration.AgentRegistry

/-!
# The selector

`DeterministicAgentSelector.select` returns the best of its candidates (`Best`): fit, stored
under its key, and before every other fit one in the order of the candidates. And
`definitions_for_policy` lists the newest version of each definition (`Newest`).
-/

set_option autoImplicit false

namespace AgentCompanyOS.Orchestration

open Foundation Foundation.Txn Domain AgentCompanyOS.Runtime

/-! ## The order of the candidates -/

instance : Std.Total ranksBefore where
  total a b := by
    unfold ranksBefore
    rcases Nat.lt_trichotomy a.1 b.1 with less | same | more
    · exact .inl (.inl less)
    · rcases lt_trichotomy a.2.definition.id.value b.2.definition.id.value with less | one | more
      · exact .inl (.inr ⟨same, .inl less⟩)
      · rcases Nat.le_total b.2.version.value a.2.version.value with le | le
        · exact .inl (.inr ⟨same, .inr ⟨one, le⟩⟩)
        · exact .inr (.inr ⟨same.symm, .inr ⟨one.symm, le⟩⟩)
      · exact .inr (.inr ⟨same.symm, .inl more⟩)
    · exact .inr (.inl more)

instance : IsTrans (Nat × AgentDefinitionVersion) ranksBefore where
  trans a b c := by
    rintro (less | ⟨same, first⟩) (less' | ⟨same', second⟩)
    · exact .inl (less.trans less')
    · exact .inl (same' ▸ less)
    · exact .inl (same ▸ less')
    · refine .inr ⟨same.trans same', ?_⟩
      rcases first with before | ⟨one, le⟩ <;> rcases second with before' | ⟨one', le'⟩
      · exact .inl (before.trans before')
      · exact .inl (one' ▸ before)
      · exact .inl (one ▸ before')
      · exact .inr ⟨one.trans one', le'.trans le⟩

/-- Candidates that rank before each other have one definition and version. -/
theorem key_of_ranksBefore {a b : Nat × AgentDefinitionVersion} (first : ranksBefore a b)
    (second : ranksBefore b a) : a.2.key = b.2.key := by
  rcases first with less | ⟨same, before | ⟨one, le⟩⟩ <;>
    rcases second with less' | ⟨same', before' | ⟨one', le'⟩⟩
  · exact absurd less' less.not_gt
  · omega
  · omega
  · omega
  · exact absurd before' before.not_gt
  · exact absurd (one' ▸ before) (lt_irrefl _)
  · omega
  · exact absurd (one ▸ before') (lt_irrefl _)
  · have id : a.2.definition.id = b.2.definition.id := OpaqueId.ext_value one
    have version : a.2.version = b.2.version := Version.ext_value (Nat.le_antisymm le' le)
    exact Prod.ext id version

/-! ## The selector -/

section Selector

variable (s : RuntimeStore) (workspaceId : WorkspaceId) (requirements : AgentRequirements)
  (excluded : List AgentDefinitionVersion)

/-- One definition ranks before another by the runs that are open in a store. -/
def RanksAhead (a b : AgentDefinitionVersion) : Prop :=
  ranksBefore (activeRuns s a, a) (activeRuns s b, b)

/-- A candidate that covers the requirements and is the stored definition. -/
structure Fit (items : Set AgentDefinitionVersion) (item : AgentDefinitionVersion) : Prop where
  candidate : item ∈ items
  covers : covers workspaceId requirements excluded item = true
  published : Published s workspaceId item

/-- A fit candidate that ranks before every other. -/
structure Best (items : Set AgentDefinitionVersion) (item : AgentDefinitionVersion) : Prop where
  fit : Fit s workspaceId requirements excluded items item
  least : ∀ other, Fit s workspaceId requirements excluded items other → RanksAhead s item other

/-- Some definition of the workspace is stored under the key of each covering candidate. -/
def Filed (items : Set AgentDefinitionVersion) : Prop :=
  ∀ item ∈ items, covers workspaceId requirements excluded item = true →
    ∃ stored, s.definitions.get? item.key = some stored ∧
      stored.definition.workspaceId = workspaceId

variable {s workspaceId requirements excluded}

theorem Fit.mono {items others : Set AgentDefinitionVersion} {item : AgentDefinitionVersion}
    (fit : Fit s workspaceId requirements excluded items item)
    (h : item ∈ items → item ∈ others) : Fit s workspaceId requirements excluded others item :=
  ⟨h fit.candidate, fit.covers, fit.published⟩

theorem Best.unique {items : Set AgentDefinitionVersion} {a b : AgentDefinitionVersion}
    (first : Best s workspaceId requirements excluded items a)
    (second : Best s workspaceId requirements excluded items b) : a = b := by
  have key := key_of_ranksBefore (first.least b second.fit) (second.least a first.fit)
  have stored := first.fit.published.1
  rw [show a.key = b.key from key, second.fit.published.1] at stored
  exact (Option.some.inj stored).symm

theorem Filed.mono {items others : Set AgentDefinitionVersion}
    (filed : Filed s workspaceId requirements excluded items)
    (h : ∀ item ∈ others, item ∈ items) : Filed s workspaceId requirements excluded others :=
  fun item mem => filed item (h item mem)

theorem isViolation_of_rule {rule : String} {e : Exc} (h : isViolationOf rule e = true) :
    isViolation e = true := by
  unfold isViolationOf at h
  split at h
  · rfl
  · cases h

theorem answers_getDefinition (id : AgentDefinitionId) (version : Version) :
    Answers s (getDefinition workspaceId id version) fun r =>
      (∀ stored, r = .ok stored ↔ s.definitions.get? (id, version) = some stored ∧
        stored.definition.workspaceId = workspaceId) ∧
      ∀ e, r = .error e → isViolation e = false := by
  unfold getDefinition
  refine Answers.getStore.bind (fun store read => ?_) nofun
  cases read
  refine (Answers.need _ _).bind (fun found stored => ?_) ?_
  · cases held : s.definitions.get? (id, version) with
    | none =>
        rw [held] at stored
        cases stored
    | some definition =>
        rw [held] at stored
        cases stored
        refine (Answers.raiseIf _ _).bind (fun _ passed => ?_) ?_
        · refine Answers.pure ⟨fun stored => ?_, nofun⟩
          constructor
          · rintro ⟨⟩
            refine ⟨rfl, ?_⟩
            by_contra elsewhere
            rw [if_pos fun same => elsewhere same.symm] at passed
            cases passed
          · rintro ⟨⟨⟩, -⟩
            rfl
        · intro e raised
          split at raised
          · rename_i elsewhere
            cases raised
            refine ⟨fun stored => ⟨nofun, ?_⟩, ?_⟩
            · rintro ⟨⟨⟩, here⟩
              exact absurd here.symm elsewhere
            · rintro _ ⟨⟩
              rfl
          · cases raised
  · intro e raised
    cases held : s.definitions.get? (id, version) with
    | none =>
        rw [held] at raised
        cases raised
        refine ⟨fun stored => ⟨nofun, nofun⟩, ?_⟩
        rintro _ ⟨⟩
        rfl
    | some definition =>
        rw [held] at raised
        cases raised

theorem answers_rankCandidates (items : List AgentDefinitionVersion) :
    Answers s (rankCandidates workspaceId requirements excluded items) fun r =>
      (∀ ranked, r = .ok ranked → Filed s workspaceId requirements excluded (· ∈ items) ∧
        ∀ entry, entry ∈ ranked ↔ entry.1 = activeRuns s entry.2 ∧
          Fit s workspaceId requirements excluded (· ∈ items) entry.2) ∧
      ∀ e, r = .error e → isViolation e = false ∧
        ¬Filed s workspaceId requirements excluded (· ∈ items) := by
  induction items with
  | nil =>
      refine Answers.pure ⟨?_, fun e raised => by cases raised⟩
      rintro _ ⟨⟩
      refine ⟨fun _ mem => (List.not_mem_nil mem).elim, fun entry => ?_⟩
      constructor
      · exact fun mem => (List.not_mem_nil mem).elim
      · exact fun fit => (List.not_mem_nil fit.2.candidate).elim
  | cons item rest ih =>
      unfold rankCandidates
      split
      · -- The candidate does not cover the requirements: it is passed over.
        rename_i lacks
        have passed : Filed s workspaceId requirements excluded (· ∈ item :: rest) ↔
            Filed s workspaceId requirements excluded (· ∈ rest) := by
          constructor
          · exact fun filed => filed.mono fun other mem => List.mem_cons_of_mem _ mem
          · intro filed other mem able
            rcases List.mem_cons.mp mem with rfl | later
            · rw [lacks] at able
              cases able
            · exact filed other later able
        have fits (other : AgentDefinitionVersion) :
            Fit s workspaceId requirements excluded (· ∈ item :: rest) other ↔
              Fit s workspaceId requirements excluded (· ∈ rest) other := by
          constructor
          · intro fit
            refine fit.mono fun mem => ?_
            rcases List.mem_cons.mp mem with rfl | later
            · have able := fit.covers
              rw [lacks] at able
              cases able
            · exact later
          · exact fun fit => fit.mono fun mem => List.mem_cons_of_mem _ mem
        refine ih.mono fun r answered => ⟨fun ranked ok => ?_, fun e raised => ?_⟩
        · obtain ⟨filed, mem⟩ := answered.1 ranked ok
          exact ⟨passed.mpr filed, fun entry => (mem entry).trans (and_congr_right' (fits _).symm)⟩
        · obtain ⟨other, unfiled⟩ := answered.2 e raised
          exact ⟨other, fun filed => unfiled (passed.mp filed)⟩
      · rename_i able
        rw [Bool.not_eq_false] at able
        refine (answers_getDefinition item.definition.id item.version).bind ?_ ?_
        · rintro canonical ⟨held, -⟩
          obtain ⟨stored, home⟩ := (held canonical).mp rfl
          refine Answers.getStore.bind (fun store read => ?_) fun e raised => by cases raised
          cases read
          refine ih.bind ?_ ?_
          · rintro ranked ⟨answered, -⟩
            obtain ⟨filed, mem⟩ := answered ranked rfl
            refine Answers.pure ⟨?_, fun e raised => by cases raised⟩
            rintro _ ⟨⟩
            constructor
            · intro other inside able'
              rcases List.mem_cons.mp inside with rfl | later
              · exact ⟨canonical, stored, home⟩
              · exact filed other later able'
            · intro entry
              have fits : Fit s workspaceId requirements excluded (· ∈ item :: rest) entry.2 ↔
                  (canonical = item ∧ entry.2 = item) ∨
                    Fit s workspaceId requirements excluded (· ∈ rest) entry.2 := by
                constructor
                · intro fit
                  rcases List.mem_cons.mp fit.candidate with one | later
                  · refine .inl ⟨?_, one⟩
                    have published := fit.published.1
                    rw [one] at published
                    exact Option.some.inj (stored.symm.trans published)
                  · exact .inr (fit.mono fun _ => later)
                · rintro (⟨here, one⟩ | fit)
                  · rw [one]
                    exact ⟨List.mem_cons_self, able, here ▸ stored, here ▸ home⟩
                  · exact fit.mono fun inside => List.mem_cons_of_mem _ inside
              rw [fits]
              split
              · rename_i here
                rw [List.mem_cons, mem entry]
                constructor
                · rintro (rfl | ⟨runs, fit⟩)
                  · exact ⟨rfl, .inl ⟨here, rfl⟩⟩
                  · exact ⟨runs, .inr fit⟩
                · rintro ⟨runs, ⟨-, one⟩ | fit⟩
                  · rw [one] at runs
                    exact .inl (Prod.ext runs one)
                  · exact .inr ⟨runs, fit⟩
              · rename_i other
                rw [mem entry]
                exact and_congr_right' ⟨.inr, fun h => h.elim (fun one => absurd one.1 other) id⟩
          · rintro e ⟨-, answered⟩
            obtain ⟨kind, unfiled⟩ := answered e rfl
            refine ⟨fun ranked ok => (by cases ok), ?_⟩
            rintro _ ⟨⟩
            exact ⟨kind, fun filed => unfiled (filed.mono fun _ => List.mem_cons_of_mem _)⟩
        · rintro e ⟨held, kind⟩
          refine ⟨fun ranked ok => (by cases ok), ?_⟩
          rintro _ ⟨⟩
          refine ⟨kind e rfl, fun filed => ?_⟩
          obtain ⟨stored, found⟩ := filed item List.mem_cons_self able
          cases (held stored).mpr found

variable (s workspaceId requirements excluded) in
/-- What the selector answers: the best candidate, or that there is none, when the store
knows every covering candidate. -/
theorem answers_select (items : List AgentDefinitionVersion) :
    Answers s (select workspaceId requirements items excluded) fun r =>
      (∀ agent, r = .ok agent ↔ Filed s workspaceId requirements excluded (· ∈ items) ∧
        Best s workspaceId requirements excluded (· ∈ items) agent) ∧
      ∀ e, r = .error e → (isViolationOf "no_eligible_agent" e = true ↔
        Filed s workspaceId requirements excluded (· ∈ items) ∧
          ∀ agent, ¬Fit s workspaceId requirements excluded (· ∈ items) agent) := by
  unfold select
  refine (answers_rankCandidates items).bind ?_ ?_
  · rintro ranked ⟨answered, -⟩
    obtain ⟨filed, mem⟩ := answered ranked rfl
    have listed (agent : AgentDefinitionVersion)
        (fit : Fit s workspaceId requirements excluded (· ∈ items) agent) :
        (activeRuns s agent, agent) ∈ ranked.insertionSort ranksBefore :=
      (List.mem_insertionSort _).mpr ((mem _).mpr ⟨rfl, fit⟩)
    have sorted := List.pairwise_insertionSort ranksBefore ranked
    refine (Answers.need _ _).bind (fun best first => ?_) (fun e none' => ?_)
    · cases order : ranked.insertionSort ranksBefore with
      | nil =>
          rw [order] at first
          cases first
      | cons head rest =>
          rw [order] at first sorted
          cases first
          have inside : best ∈ ranked.insertionSort ranksBefore := order ▸ List.mem_cons_self
          obtain ⟨runs, fit⟩ := (mem best).mp ((List.mem_insertionSort _).mp inside)
          have best' : Best s workspaceId requirements excluded (· ∈ items) best.2 := by
            refine ⟨fit, fun other fit' => ?_⟩
            unfold RanksAhead
            rw [← runs]
            rcases List.mem_cons.mp (order ▸ listed other fit') with one | later
            · rw [one]
              exact (Std.Total.total best best).elim id id
            · exact List.rel_of_pairwise_cons sorted later
          refine Answers.pure ⟨fun agent => ?_, nofun⟩
          constructor
          · rintro ⟨⟩
            exact ⟨filed, best'⟩
          · rintro ⟨-, other⟩
            rw [best'.unique other]
    · cases order : ranked.insertionSort ranksBefore with
      | nil =>
          rw [order] at none'
          cases none'
          have empty (agent : AgentDefinitionVersion) :
              ¬Fit s workspaceId requirements excluded (· ∈ items) agent := by
            intro fit
            have inside := listed agent fit
            rw [order] at inside
            exact List.not_mem_nil inside
          refine ⟨fun agent => ⟨nofun, fun best => (empty agent best.2.fit).elim⟩, ?_⟩
          rintro _ ⟨⟩
          exact ⟨fun _ => ⟨filed, empty⟩, fun _ => rfl⟩
      | cons head rest =>
          rw [order] at none'
          cases none'
  · rintro e ⟨-, answered⟩
    obtain ⟨kind, unfiled⟩ := answered e rfl
    refine ⟨fun agent => ⟨nofun, fun best => (unfiled best.1).elim⟩, ?_⟩
    rintro _ ⟨⟩
    refine ⟨fun rule => ?_, fun none' => (unfiled none'.1).elim⟩
    rw [isViolation_of_rule rule] at kind
    cases kind

end Selector

/-! ## The newest versions -/

section Newest

/-- The newest of the listed versions of its definition. -/
def NewestOf (listed : List AgentDefinitionVersion) (item : AgentDefinitionVersion) : Prop :=
  item ∈ listed ∧ ∀ other ∈ listed, other.definition.id = item.definition.id →
    other.version.value ≤ item.version.value

theorem latestDefinitions_concat (listed : List AgentDefinitionVersion)
    (last : AgentDefinitionVersion) :
    latestDefinitions (listed ++ [last]) =
      match (latestDefinitions listed).get? last.definition.id with
      | none => (latestDefinitions listed).put last
      | some current =>
          if current.version.value < last.version.value then (latestDefinitions listed).put last
          else latestDefinitions listed := by
  unfold latestDefinitions
  rw [List.foldl_append]
  rfl

theorem exists_latest (listed : List AgentDefinitionVersion) {item : AgentDefinitionVersion}
    (mem : item ∈ listed) :
    ∃ newest, (latestDefinitions listed).get? item.definition.id = some newest := by
  induction listed using List.reverseRecOn with
  | nil => exact (List.not_mem_nil mem).elim
  | append_singleton listed last ih =>
      have held (early : item ∈ listed) :
          ∃ newest, ((latestDefinitions listed).put last).get? item.definition.id =
            some newest := by
        rw [Registry.get?_put]
        split
        · exact ⟨last, rfl⟩
        · exact ih early
      rw [latestDefinitions_concat]
      cases found : (latestDefinitions listed).get? last.definition.id with
      | none =>
          rcases List.mem_append.mp mem with early | late
          · exact held early
          · rw [List.mem_singleton.mp late]
            exact ⟨last, Registry.get?_put_self _ _⟩
      | some current =>
          dsimp only
          rcases List.mem_append.mp mem with early | late
          · split
            · exact held early
            · exact ih early
          · rw [List.mem_singleton.mp late]
            split
            · exact ⟨last, Registry.get?_put_self _ _⟩
            · exact ⟨current, found⟩

/-- The fold keeps the newest version of each definition, when no version is listed twice. -/
theorem get?_latestDefinitions (listed : List AgentDefinitionVersion)
    (distinct : (listed.map AgentDefinitionVersion.key).Nodup) (id : AgentDefinitionId)
    (item : AgentDefinitionVersion) :
    (latestDefinitions listed).get? id = some item ↔
      item.definition.id = id ∧ NewestOf listed item := by
  induction listed using List.reverseRecOn generalizing id item with
  | nil =>
      constructor
      · exact nofun
      · exact fun newest => (List.not_mem_nil newest.2.1).elim
  | append_singleton listed last ih =>
      rw [List.map_append, List.nodup_append] at distinct
      obtain ⟨distinct, -, apart⟩ := distinct
      have apart (other : AgentDefinitionVersion) (mem : other ∈ listed) : other.key ≠ last.key :=
        apart _ (List.mem_map_of_mem mem) _ (List.mem_map_of_mem List.mem_cons_self)
      -- A listed version of the same definition as the last one differs from it.
      have differs (other : AgentDefinitionVersion) (mem : other ∈ listed)
          (same : other.definition.id = last.definition.id) :
          other.version.value ≠ last.version.value :=
        fun version => apart other mem (Prod.ext same (Version.ext_value version))
      have wider (newest : last.definition.id ≠ item.definition.id) :
          NewestOf (listed ++ [last]) item ↔ NewestOf listed item := by
        unfold NewestOf
        rw [List.mem_append, List.mem_singleton]
        constructor
        · rintro ⟨inside, newer⟩
          refine ⟨inside.resolve_right fun one => newest (congrArg (·.definition.id) one.symm), ?_⟩
          exact fun other mem => newer other (List.mem_append_left _ mem)
        · rintro ⟨inside, newer⟩
          refine ⟨.inl inside, fun other mem same => ?_⟩
          rcases List.mem_append.mp mem with early | late
          · exact newer other early same
          · rw [List.mem_singleton.mp late] at same
            exact absurd same newest
      have placed (kept : ∀ other ∈ listed, other.definition.id = last.definition.id →
            other.version.value < last.version.value) :
          ((latestDefinitions listed).put last).get? id = some item ↔
            item.definition.id = id ∧ NewestOf (listed ++ [last]) item := by
        rw [Registry.get?_put]
        by_cases here : last.definition.id = id
        · rw [if_pos here]
          constructor
          · rintro ⟨⟩
            refine ⟨here, List.mem_append_right _ List.mem_cons_self, fun other mem same => ?_⟩
            rcases List.mem_append.mp mem with early | late
            · exact (kept other early same).le
            · rw [List.mem_singleton.mp late]
          · rintro ⟨same, inside, newer⟩
            rcases List.mem_append.mp inside with early | late
            · have less := kept item early (same.trans here.symm)
              have more := newer last (List.mem_append_right _ List.mem_cons_self)
                (here.trans same.symm)
              omega
            · rw [List.mem_singleton.mp late]
        · rw [if_neg here, ih distinct]
          exact and_congr_right fun same => (wider fun one => here (one.trans same)).symm
      rw [latestDefinitions_concat]
      cases found : (latestDefinitions listed).get? last.definition.id with
      | none =>
          refine placed fun other mem same => ?_
          obtain ⟨newest, stored⟩ := exists_latest listed mem
          rw [same, found] at stored
          cases stored
      | some current =>
          obtain ⟨one, inside, most⟩ := (ih distinct _ _).mp found
          dsimp only
          split
          · rename_i less
            refine placed fun other mem same => ?_
            have le := most other mem (same.trans one.symm)
            omega
          · rename_i more
            have less : last.version.value < current.version.value := by
              have := differs current inside one
              omega
            rw [ih distinct]
            by_cases here : last.definition.id = item.definition.id
            · refine and_congr_right fun same => ?_
              constructor
              · rintro ⟨mem, newer⟩
                refine ⟨List.mem_append_left _ mem, fun other mem' same' => ?_⟩
                rcases List.mem_append.mp mem' with early | late
                · exact newer other early same'
                · rw [List.mem_singleton.mp late]
                  have := newer current inside (one.trans here)
                  omega
              · rintro ⟨mem, newer⟩
                rcases List.mem_append.mp mem with early | late
                · exact ⟨early, fun other mem' => newer other (List.mem_append_left _ mem')⟩
                · have := newer current (List.mem_append_left _ inside) (one.trans here)
                  rw [List.mem_singleton.mp late] at this
                  omega
            · exact and_congr_right' (wider here).symm

/-- A stored definition of the workspace that no newer version follows. -/
structure Newest (s : RuntimeStore) (workspaceId : WorkspaceId) (item : AgentDefinitionVersion) :
    Prop where
  published : Published s workspaceId item
  last : ∀ other, Published s workspaceId other → other.definition.id = item.definition.id →
    other.version.value ≤ item.version.value

/-- What `definitions_for_policy` lists of a store. -/
def policyDefinitions (s : RuntimeStore) (workspaceId : WorkspaceId)
    (policy : OrchestrationPolicy) : List AgentDefinitionVersion :=
  let listed := s.definitions.values.filter (·.definition.workspaceId = workspaceId)
  let allowed := (latestDefinitions listed).values.filter fun item =>
    item.enabled && policy.allows item
  allowed.insertionSort fun a b => a.definition.id.value ≤ b.definition.id.value

theorem mem_policyDefinitions {s : RuntimeStore} {workspaceId : WorkspaceId}
    {policy : OrchestrationPolicy} {item : AgentDefinitionVersion} :
    item ∈ policyDefinitions s workspaceId policy ↔
      policy.allows item = true ∧ Newest s workspaceId item ∧ item.enabled = true := by
  have listed (d : AgentDefinitionVersion) :
      d ∈ s.definitions.values.filter (·.definition.workspaceId = workspaceId) ↔
        Published s workspaceId d := by
    rw [List.mem_filter, decide_eq_true_eq]
    constructor
    · rintro ⟨mem, home⟩
      exact ⟨Registry.get?_of_mem_values mem, home⟩
    · rintro ⟨stored, home⟩
      exact ⟨Registry.mem_values_of_get? stored, home⟩
  have distinct : ((s.definitions.values.filter (·.definition.workspaceId = workspaceId)).map
      AgentDefinitionVersion.key).Nodup :=
    s.definitions.nodup.sublist ((List.filter_sublist).map _)
  unfold policyDefinitions
  rw [List.mem_insertionSort, List.mem_filter, Bool.and_eq_true]
  have newest : item ∈ (latestDefinitions (s.definitions.values.filter
      (·.definition.workspaceId = workspaceId))).values ↔ Newest s workspaceId item := by
    constructor
    · intro mem
      obtain ⟨-, inside, last⟩ := (get?_latestDefinitions _ distinct _ _).mp
        (Registry.get?_of_mem_values mem)
      exact ⟨(listed item).mp inside, fun other published =>
        last other ((listed other).mpr published)⟩
    · rintro ⟨published, last⟩
      refine Registry.mem_values_of_get? ((get?_latestDefinitions _ distinct _ _).mpr
        ⟨rfl, (listed item).mpr published, fun other mem => last other ((listed other).mp mem)⟩)
  rw [newest]
  constructor
  · rintro ⟨first, enabled, allowed⟩
    exact ⟨allowed, first, enabled⟩
  · rintro ⟨allowed, first, enabled⟩
    exact ⟨first, enabled, allowed⟩

end Newest

end AgentCompanyOS.Orchestration
