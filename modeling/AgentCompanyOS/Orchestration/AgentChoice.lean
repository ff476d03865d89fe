import AgentCompanyOS.Orchestration.Selector
import AgentCompanyOS.Runtime.Release

/-!
# Which agent is chosen

The agent that `select_agent` returns meets every condition of the request and no agent that
meets them throughout the call goes before it (`Chosen`). The stages read the clock as they
go, so each is described by its answer after a number of readings (`AnswersAt`), and a stage
that checks routes by what it surely keeps and what it may keep (`Filters`). While no
membership begins or ends the two are one set, which depends on the members of the candidate
tuple alone, not on their order.
-/

set_option autoImplicit false

namespace AgentCompanyOS.Orchestration

open Foundation Foundation.Txn Domain AgentCompanyOS.Runtime

/-! ## The candidates of a request -/

/-- A clock that shows one instant. -/
def Env.still (gen : (kind : IdKind) → Nat → OpaqueId kind) (at' : Instant) : Env :=
  ⟨gen, fun _ => at'⟩

/-- The host with the agent registry in the place of its registry. -/
def OrchestrationHost.registered (host : OrchestrationHost) : OrchestrationHost :=
  { host with registry := host.registry.map fun _ => agentRegistry }

/-- The requirements speak of the organization. -/
def AgentRequirements.Organizational (requirements : AgentRequirements) : Prop :=
  requirements.capabilityIds ≠ [] ∨ requirements.requiredDepartment ≠ Option.none ∨
    requirements.preferredDepartment ≠ Option.none ∨ requirements.organizationalRole ≠ Option.none

/-- What a request asks the registry for. -/
def AgentRequirements.query (requirements : AgentRequirements) : RegistryQuery :=
  ⟨requirements.requiredDepartment, requirements.organizationalRole, requirements.capabilityIds⟩

/-- The agents that a run offers: the newest enabled definitions, or those that the pinned
graph makes discoverable. -/
def Pool (s : RuntimeStore) (at' : Instant) (run : OrchestrationRun)
    (requirements : AgentRequirements) (item : AgentDefinitionVersion) : Prop :=
  match run.organization with
  | none => Newest s run.workspaceId item ∧ item.enabled = true
  | some snapshot => Discoverable s at' run.workspaceId snapshot requirements.query item

/-- What the candidates of a request are: the agents of the pool that the policy allows.
Without an organization nothing may have asked for one; with one its query has answered. -/
structure Offered (s : RuntimeStore) (at' : Instant) (host : OrchestrationHost)
    (run : OrchestrationRun) (requirements : AgentRequirements)
    (found : List AgentDefinitionVersion) : Prop where
  pool : ∀ item, item ∈ found ↔
    run.policy.allows item = true ∧ Pool s at' run requirements item
  plain : run.organization = none →
    ¬requirements.Organizational ∧ run.sourceDepartment = none
  answered : ∀ snapshot, run.organization = some snapshot → host.registry ≠ none ∧ ∃ items,
    queryRegistry s at' run.workspaceId snapshot requirements.query = .ok items

section Stages

variable {s : OrchestrationStore} {env : Env} {n : Nat} {at' : Instant}
  {host : OrchestrationHost} {run : OrchestrationRun} {requirements : AgentRequirements}

theorem answers_inRuntime {α : Type} {m : RuntimeTxn α} {S : Except Exc α → Prop}
    (h : Answers s.runtime m S) : Answers s (inRuntime m) S :=
  h.zoom rfl

variable (s env n) in
theorem answersAt_askRegistry {α : Type}
    (ask : RuntimeStore → (Nat → Instant) → RegistryReply α) :
    AnswersAt s n (askRegistry env ask) fun r k =>
      r = (ask s.runtime fun i => env.clock (n + i)).1 ∧
        k = n + (ask s.runtime fun i => env.clock (n + i)).2 := by
  intro w same count
  subst same count
  unfold askRegistry
  dsimp only
  generalize ask w.store.runtime (fun i => env.clock (w.reads + i)) = reply
  obtain ⟨answer, readings⟩ := reply
  cases answer with
  | ok a => exact ⟨rfl, rfl, rfl⟩
  | error e => exact ⟨rfl, rfl, rfl⟩

variable (s env n) in
/-- A query is judged at the next reading, the only one that it makes when it answers. -/
theorem answersAt_query (workspaceId : WorkspaceId) (snapshot : OrganizationSnapshot)
    (query : RegistryQuery) :
    AnswersAt s n (askRegistry env fun store clock =>
        agentRegistry.query store clock workspaceId snapshot query) fun r k =>
      r = queryRegistry s.runtime (env.clock n) workspaceId snapshot query ∧
        ∀ items, r = .ok items → k = n + 1 := by
  refine (answersAt_askRegistry s env n _).mono ?_
  rintro r k ⟨answer, readings⟩
  refine ⟨answer, fun items ok => ?_⟩
  rw [readings]
  exact congrArg (n + ·) (queryReadings_of_ok (answer.symm.trans ok))

variable (s env n) in
/-- A route is judged at the next two readings. -/
theorem answersAt_route (workspaceId : WorkspaceId) (snapshot : OrganizationSnapshot)
    (source : RouteSource) (target : AgentDefinitionVersion) (kind : RouteKind) :
    AnswersAt s n (askRegistry env fun store clock =>
        agentRegistry.requireRoute store clock workspaceId snapshot source target kind) fun r k =>
      r = requireRegistryRoute s.runtime (env.clock n) (env.clock (n + 1)) workspaceId snapshot
        source target kind ∧ n ≤ k := by
  refine (answersAt_askRegistry s env n _).mono ?_
  rintro r k ⟨answer, rfl⟩
  exact ⟨answer, Nat.le_add_right _ _⟩

theorem answers_listDefinitions (workspaceId : WorkspaceId) :
    ∃ r, Answers s.runtime (listDefinitions workspaceId) (· = r) ∧ ∀ listed, r = .ok listed →
      listed = s.runtime.definitions.values.filter (·.definition.workspaceId = workspaceId) := by
  have home : Answers s.runtime (Runtime.inDomain (getWorkspace workspaceId))
      (· = (s.runtime.domain.workspaces.get? workspaceId).elim
        (.error (.domain (.entityNotFound (py (Entity.typeName Workspace)) workspaceId.value)))
        .ok) :=
    Answers.zoom rfl (Answers.getStore.bind_ok (Answers.need _ _))
  unfold listDefinitions
  cases found : s.runtime.domain.workspaces.get? workspaceId with
  | none =>
      rw [found] at home
      exact ⟨_, home.bind_error rfl, nofun⟩
  | some workspace =>
      rw [found] at home
      refine ⟨_, home.bind_ok (Answers.getStore.bind_ok (Answers.pure rfl)), ?_⟩
      rintro _ ⟨⟩
      rfl

theorem answers_definitionsForPolicy (workspaceId : WorkspaceId) (policy : OrchestrationPolicy) :
    ∃ r, Answers s (definitionsForPolicy workspaceId policy) (· = r) ∧ ∀ listed, r = .ok listed →
      listed = policyDefinitions s.runtime workspaceId policy := by
  obtain ⟨r, answers, spec⟩ := answers_listDefinitions (s := s) workspaceId
  unfold definitionsForPolicy
  cases r with
  | error e => exact ⟨_, (answers_inRuntime answers).bind_error rfl, nofun⟩
  | ok listed =>
      refine ⟨_, (answers_inRuntime answers).bind_ok (Answers.pure rfl), ?_⟩
      rintro _ ⟨⟩
      rw [spec listed rfl]
      rfl

variable (s env n host run requirements) in
/-- The candidates are judged at the first reading; a run without an organization makes none. -/
theorem answersAt_candidates :
    ∃ r, AnswersAt s n (candidates env host.registered run requirements) (fun r' k => r' = r ∧
        ∀ found, r' = .ok found → k = if run.organization = none then n else n + 1) ∧
      ∀ found, r = .ok found →
        Offered s.runtime (env.clock n) host run requirements found := by
  cases pinned : run.organization with
  | none =>
      unfold candidates
      rw [pinned]
      dsimp only
      by_cases refused : requirements.capabilityIds ≠ [] ∨ requirements.requiredDepartment ≠ none ∨
          requirements.preferredDepartment ≠ none ∨ requirements.organizationalRole ≠ none ∨
          run.sourceDepartment ≠ none
      · refine ⟨.error (violation "organization_required"),
          AnswersAt.bind ((Answers.raiseIf_of refused _).at (Reads.raiseIf _ _) n) ?_ ?_, nofun⟩
        · rintro _ _ ⟨⟨⟩, -⟩
        · rintro _ _ ⟨⟨⟩, -⟩
          exact ⟨rfl, nofun⟩
      · obtain ⟨r, answers, spec⟩ :=
          answers_definitionsForPolicy (s := s) run.workspaceId run.policy
        have listed := ((Answers.raiseIf_of_not refused
          (violation "organization_required")).bind_ok answers).at
            ((Reads.raiseIf _ _).bind fun _ => reads_definitionsForPolicy _ _) n
        refine ⟨r, listed.mono fun r' k same => ⟨same.1, fun _ _ => ?_⟩, fun found ok => ?_⟩
        · rw [if_pos rfl]
          exact same.2
        · refine ⟨fun item => ?_, fun _ => ?_, fun snapshot found => ?_⟩
          · unfold Pool
            rw [pinned, spec found ok, mem_policyDefinitions]
          · constructor
            · rintro (h | h | h | h)
              · exact refused (.inl h)
              · exact refused (.inr (.inl h))
              · exact refused (.inr (.inr (.inl h)))
              · exact refused (.inr (.inr (.inr (.inl h))))
            · by_contra started
              exact refused (.inr (.inr (.inr (.inr started))))
          · rw [pinned] at found
            cases found
  | some snapshot =>
      unfold candidates OrchestrationHost.registered
      rw [pinned]
      cases wired : host.registry with
      | none => exact ⟨_, AnswersAt.raise ⟨rfl, nofun⟩, nofun⟩
      | some registry =>
          dsimp only [Option.map_some]
          have asked := answersAt_query s env n run.workspaceId snapshot requirements.query
          cases answered : queryRegistry s.runtime (env.clock n) run.workspaceId snapshot
              requirements.query with
          | error e =>
              refine ⟨.error e, asked.bind ?_ ?_, nofun⟩
              · rintro _ _ ⟨same, -⟩
                cases same.trans answered
              · rintro _ _ ⟨same, -⟩
                cases same.trans answered
                exact ⟨rfl, nofun⟩
          | ok items =>
              refine ⟨.ok (items.filter run.policy.allows), asked.bind ?_ ?_, ?_⟩
              · rintro _ k ⟨same, readings⟩
                cases same.trans answered
                refine AnswersAt.pure ⟨rfl, fun _ _ => ?_⟩
                rw [if_neg nofun]
                exact readings items rfl
              · rintro _ _ ⟨same, -⟩
                cases same.trans answered
              · rintro _ ⟨⟩
                refine ⟨fun item => ?_, fun plain => ?_, fun snapshot' found => ?_⟩
                · unfold Pool
                  rw [pinned, List.mem_filter, mem_queryRegistry answered]
                  exact and_comm
                · rw [pinned] at plain
                  cases plain
                · rw [pinned] at found
                  cases found
                  rw [wired]
                  exact ⟨nofun, items, answered⟩

/-! ## Filters -/

/-- A stage of the selection. -/
abbrev Stage := List AgentDefinitionVersion → OrchestrationTxn (List AgentDefinitionVersion)

/-- From readings with `I`, a stage keeps the items with the property `Sure` and only items
with the property `May`. What lies between depends on when the clock is read. -/
def Filters (s : OrchestrationStore) (I : Nat → Prop) (stage : Stage)
    (Sure May : AgentDefinitionVersion → Prop) : Prop :=
  ∀ items n, I n → AnswersAt s n (stage items) fun r k =>
    I k ∧ ∃ kept, r = .ok kept ∧ ∀ a, (a ∈ kept → a ∈ items ∧ May a) ∧
      (a ∈ items ∧ Sure a → a ∈ kept)

section Filtering

variable {I : Nat → Prop} {first second : Stage}
  {Sure May Sure' May' : AgentDefinitionVersion → Prop}

theorem Filters.idle (all : ∀ a, May a) : Filters s I pure Sure May :=
  fun items _ holds => AnswersAt.pure
    ⟨holds, items, rfl, fun a => ⟨fun mem => ⟨mem, all a⟩, And.left⟩⟩

theorem Filters.mono (h : Filters s I first Sure May) (sure : ∀ a, Sure' a → Sure a)
    (may : ∀ a, May a → May' a) : Filters s I first Sure' May' := by
  intro items n holds
  refine (h items n holds).mono ?_
  rintro r k ⟨later, kept, ok, mem⟩
  exact ⟨later, kept, ok, fun a =>
    ⟨fun inside => ((mem a).1 inside).imp id (may a), fun both => (mem a).2 (both.imp id (sure a))⟩⟩

theorem Filters.bind (h : Filters s I first Sure May) (h' : Filters s I second Sure' May') :
    Filters s I (fun items => first items >>= second) (fun a => Sure a ∧ Sure' a)
      fun a => May a ∧ May' a := by
  intro items n holds
  refine (h items n holds).bind ?_ ?_
  · rintro kept k ⟨later, _, ⟨⟩, mem⟩
    refine (h' kept k later).mono ?_
    rintro r k' ⟨last, kept', ok, mem'⟩
    refine ⟨last, kept', ok, fun a => ⟨fun inside => ?_, fun both => ?_⟩⟩
    · obtain ⟨inside, may'⟩ := (mem' a).1 inside
      obtain ⟨inside, may⟩ := (mem a).1 inside
      exact ⟨inside, may, may'⟩
    · obtain ⟨inside, sure, sure'⟩ := both
      exact (mem' a).2 ⟨(mem a).2 ⟨inside, sure⟩, sure'⟩
  · rintro _ _ ⟨-, _, ⟨⟩, -⟩

/-- The items pass for which a check returns that raises violations only. -/
theorem filters_passing {check : AgentDefinitionVersion → OrchestrationTxn Unit}
    (h : ∀ a n, I n → AnswersAt s n (check a) fun r k => I k ∧
      (r = .ok () → May a) ∧ ∀ e, r = .error e → isViolation e = true ∧ ¬Sure a) :
    Filters s I (passing check) Sure May := by
  intro items
  induction items with
  | nil =>
      intro n holds
      refine AnswersAt.pure ⟨holds, [], rfl, fun a => ⟨fun mem => ?_, And.left⟩⟩
      exact (List.not_mem_nil mem).elim
  | cons item rest ih =>
      intro n holds
      have one : AnswersAt s n (catching (do check item; pure true) fun e =>
          if isViolation e = true then pure false else raise e) fun r k =>
            I k ∧ ∃ b, r = .ok b ∧ (b = true → May item) ∧ (Sure item → b = true) := by
        have ran : AnswersAt s n (do check item; pure true) fun r k => I k ∧
            (r = .ok true → May item) ∧ ∀ e, r = .error e → isViolation e = true ∧ ¬Sure item := by
          refine (h item n holds).bind ?_ ?_
          · rintro u k ⟨later, may, -⟩
            exact AnswersAt.pure ⟨later, fun _ => may rfl, nofun⟩
          · rintro e k ⟨later, -, raised⟩
            refine ⟨later, nofun, ?_⟩
            rintro _ ⟨⟩
            exact raised e rfl
        have passes : AnswersAt s n (do check item; pure true) fun r _ => r ≠ .ok false := by
          refine (h item n holds).bind (fun _ _ _ => AnswersAt.pure nofun) fun _ _ _ => nofun
        have both : AnswersAt s n (do check item; pure true) fun r k => r ≠ .ok false ∧ I k ∧
            (r = .ok true → May item) ∧ ∀ e, r = .error e → isViolation e = true ∧ ¬Sure item :=
          fun w same count => ⟨(ran w same count).1, (passes w same count).2, (ran w same count).2⟩
        refine both.catching ?_ ?_
        · rintro b k ⟨passed, later, may, -⟩
          cases b with
          | false => exact absurd rfl passed
          | true => exact ⟨later, true, rfl, fun _ => may rfl, fun _ => rfl⟩
        · rintro e k ⟨-, later, -, raised⟩
          rw [if_pos (raised e rfl).1]
          exact AnswersAt.pure ⟨later, false, rfl, nofun, fun sure => absurd sure (raised e rfl).2⟩
      unfold passing
      refine one.bind ?_ ?_
      · rintro b k ⟨later, _, ⟨⟩, may, sure⟩
        refine (ih k later).bind ?_ ?_
        · rintro kept k' ⟨last, _, ⟨⟩, mem⟩
          refine AnswersAt.pure ⟨last, _, rfl, fun a => ⟨fun inside => ?_, ?_⟩⟩
          · have others (inside : a ∈ kept) : a ∈ item :: rest ∧ May a :=
              ((mem a).1 inside).imp (List.mem_cons_of_mem _) id
            split at inside
            · rename_i ok
              rcases List.mem_cons.mp inside with rfl | inside
              · exact ⟨List.mem_cons_self, may ok⟩
              · exact others inside
            · exact others inside
          · rintro ⟨inside, keep⟩
            rcases List.mem_cons.mp inside with rfl | inside
            · rw [if_pos (sure keep)]
              exact List.mem_cons_self
            · have later := (mem a).2 ⟨inside, keep⟩
              split
              · exact List.mem_cons_of_mem _ later
              · exact later
        · rintro _ _ ⟨-, _, ⟨⟩, -⟩
      · rintro _ _ ⟨-, _, ⟨⟩, -⟩

end Filtering

/-! ## Routes -/

/-- The kinds of route that a request of one kind needs. -/
def routeKinds (kind : RouteKind) : List RouteKind :=
  if kind = .handoff then [.handoff, .delegate] else [kind]

/-- The routes of a pinned run to an agent are open: from the department that it was started
for and from every participant. -/
structure Routed (Open : OrganizationSnapshot → RouteSource → RouteKind → Prop)
    (run : OrchestrationRun) (sources : List AgentDefinitionVersion) (kind : RouteKind) :
    Prop where
  department : ∀ snapshot department, run.organization = some snapshot →
    run.sourceDepartment = some department → Open snapshot (.department department) .delegate
  participants : ∀ snapshot, run.organization = some snapshot → ∀ source ∈ sources,
    ∀ k ∈ routeKinds kind, Open snapshot (.agent source) k

/-- A route to an agent that was open at two readings in a row, made from some reading on. -/
def OpenOnce (s : RuntimeStore) (env : Env) (n : Nat) (run : OrchestrationRun)
    (item : AgentDefinitionVersion) (snapshot : OrganizationSnapshot) (source : RouteSource)
    (kind : RouteKind) : Prop :=
  ∃ k, n ≤ k ∧ Reachable s (env.clock k) (env.clock (k + 1)) run.workspaceId snapshot source
    item kind

/-- A route to an agent that is open at all readings from some reading on. -/
def OpenAlways (s : RuntimeStore) (env : Env) (n : Nat) (run : OrchestrationRun)
    (item : AgentDefinitionVersion) (snapshot : OrganizationSnapshot) (source : RouteSource)
    (kind : RouteKind) : Prop :=
  ∀ k, n ≤ k → Reachable s (env.clock k) (env.clock (k + 1)) run.workspaceId snapshot source
    item kind

/-- The run needs no route to an agent. -/
def Unrouted (run : OrchestrationRun) (sources : List AgentDefinitionVersion) : Prop :=
  run.organization = none ∨ run.sourceDepartment = none ∧ sources = []

/-- No membership of the pinned graph begins or ends while routes are read. -/
def RoutesSteady (env : Env) (run : OrchestrationRun) (sources : List AgentDefinitionVersion)
    (n : Nat) : Prop :=
  Unrouted run sources ∨ ∀ snapshot, run.organization = some snapshot → ∀ k, n ≤ k →
    snapshot.members (env.clock k) = snapshot.members (env.clock n)

variable {sources : List AgentDefinitionVersion} {kind : RouteKind}

theorem Routed.mono {Open Open' : OrganizationSnapshot → RouteSource → RouteKind → Prop}
    (h : Routed Open run sources kind)
    (imp : ∀ snapshot, run.organization = some snapshot → ∀ source k,
      Open snapshot source k → Open' snapshot source k) : Routed Open' run sources kind :=
  ⟨fun snapshot department pinned started =>
      imp snapshot pinned _ _ (h.department snapshot department pinned started),
    fun snapshot pinned source mem k inside =>
      imp snapshot pinned _ _ (h.participants snapshot pinned source mem k inside)⟩

theorem Unrouted.routed {Open : OrganizationSnapshot → RouteSource → RouteKind → Prop}
    (h : Unrouted run sources) : Routed Open run sources kind := by
  constructor
  · intro snapshot department pinned started
    rcases h with plain | ⟨unstarted, -⟩
    · rw [pinned] at plain
      cases plain
    · rw [started] at unstarted
      cases unstarted
  · intro snapshot pinned source mem
    rcases h with plain | ⟨-, empty⟩
    · rw [pinned] at plain
      cases plain
    · rw [empty] at mem
      exact (List.not_mem_nil mem).elim

/-- While the members stay the same, a route that was open once is always open. -/
theorem RoutesSteady.always {s : RuntimeStore} {item : AgentDefinitionVersion}
    (steady : RoutesSteady env run sources n)
    (once : Routed (OpenOnce s env n run item) run sources kind) :
    Routed (OpenAlways s env n run item) run sources kind := by
  rcases steady with free | still
  · exact free.routed
  · refine once.mono ?_
    rintro snapshot pinned source k ⟨j, late, reachable⟩ i later
    have same (m : Nat) (after' : n ≤ m) := still snapshot pinned m after'
    exact reachable.congr ((same j late).trans (same i later).symm)
      ((same _ (late.trans j.le_succ)).trans (same _ (later.trans i.le_succ)).symm)

/-- Both routing stages of a request. -/
def routing (env : Env) (host : OrchestrationHost) (run : OrchestrationRun)
    (sources : List AgentDefinitionVersion) (kind : RouteKind) : Stage :=
  fun items => routedFromDepartment env host run items >>=
    routedFromSources env host run sources kind

/-- Without a route to check the stages keep everything. -/
theorem routing_unrouted (h : Unrouted run sources) : routing env host run sources kind = pure := by
  have first (items : List AgentDefinitionVersion) :
      routedFromDepartment env host run items = pure items := by
    unfold routedFromDepartment
    rcases h with plain | ⟨unstarted, -⟩
    · rw [plain]
      split
      · rename_i found _
        cases found
      · rfl
    · rw [unstarted]
  have second (items : List AgentDefinitionVersion) :
      routedFromSources env host run sources kind items = pure items := by
    unfold routedFromSources
    refine if_neg ?_
    rintro ⟨some', pinned⟩
    rcases h with plain | ⟨-, empty⟩
    · exact pinned plain
    · exact some' empty
  funext items
  unfold routing
  rw [first, pure_bind, second]

/-- The checks of a request, in the order in which they are made. -/
def legs (kind : RouteKind) (sources : List AgentDefinitionVersion) :
    List (AgentDefinitionVersion × RouteKind) :=
  sources.flatMap fun source => (routeKinds kind).map fun k => (source, k)

theorem mem_legs {source : AgentDefinitionVersion} {k : RouteKind} :
    (source, k) ∈ legs kind sources ↔ source ∈ sources ∧ k ∈ routeKinds kind := by
  unfold legs
  rw [List.mem_flatMap]
  constructor
  · rintro ⟨other, inside, mem⟩
    obtain ⟨k', mem', same⟩ := List.mem_map.mp mem
    cases same
    exact ⟨inside, mem'⟩
  · rintro ⟨inside, mem⟩
    exact ⟨source, inside, List.mem_map_of_mem mem⟩

/-- `requireRoutes` as one list of checks. -/
def requireLegs (env : Env) (host : OrchestrationHost) (run : OrchestrationRun)
    (target : AgentDefinitionVersion) :
    List (AgentDefinitionVersion × RouteKind) → OrchestrationTxn Unit
  | [] => pure ()
  | leg :: rest => do
      requireOrganizationRoute env host run leg.1 target leg.2
      requireLegs env host run target rest

theorem requireRoutes_eq (target : AgentDefinitionVersion) :
    requireRoutes env host run kind target sources =
      requireLegs env host run target (legs kind sources) := by
  induction sources with
  | nil => rfl
  | cons source rest ih =>
      unfold legs routeKinds at ih ⊢
      unfold requireRoutes
      rw [List.flatMap_cons, ih]
      by_cases handing : kind = .handoff
      · subst handing
        rw [runIf_of rfl]
        rfl
      · rw [show runIf (kind = .handoff) (requireOrganizationRoute env host run source target
          .delegate) = pure () from funext fun _ => runIf_of_not handing _ _, if_neg handing]
        rfl

section Pinned

variable {snapshot : OrganizationSnapshot} {query : RegistryQuery}
  {items : List AgentDefinitionVersion} (pinned : run.organization = some snapshot)
  (wired : host.registry ≠ none)
  (answered : queryRegistry s.runtime at' run.workspaceId snapshot query = .ok items)

include answered

/-- A route of a snapshot whose query has answered: when it is refused, it is by a violation,
and it was not open. -/
theorem answersAt_requireRoute (source : RouteSource) (target : AgentDefinitionVersion)
    (k : RouteKind) {m : Nat} (late : n ≤ m) :
    AnswersAt s m (askRegistry env fun store clock =>
        agentRegistry.requireRoute store clock run.workspaceId snapshot source target k) fun r j =>
      n ≤ j ∧ (r = .ok () → OpenOnce s.runtime env n run target snapshot source k) ∧
        ∀ e, r = .error e → isViolation e = true ∧
          ¬OpenAlways s.runtime env n run target snapshot source k := by
  obtain ⟨-, all, ok⟩ := queryRegistry_all answered (env.clock m)
  refine (answersAt_route s env m _ _ _ _ _).mono ?_
  rintro r j ⟨answer, later⟩
  refine ⟨late.trans later, fun passed => ?_, fun e raised => ?_⟩
  · exact ⟨m, late, (requireRegistryRoute_iff ok).mp (answer.symm.trans passed)⟩
  · have refused := answer.symm.trans raised
    refine ⟨isViolation_requireRegistryRoute ok refused, fun always => ?_⟩
    rw [(requireRegistryRoute_iff ok).mpr (always m late)] at refused
    cases refused

include pinned wired

theorem answersAt_requireLegs (target : AgentDefinitionVersion)
    (checks : List (AgentDefinitionVersion × RouteKind)) {m : Nat} (late : n ≤ m) :
    AnswersAt s m (requireLegs env host.registered run target checks) fun r j =>
      n ≤ j ∧
      (r = .ok () → ∀ leg ∈ checks,
        OpenOnce s.runtime env n run target snapshot (.agent leg.1) leg.2) ∧
      ∀ e, r = .error e → isViolation e = true ∧
        ¬∀ leg ∈ checks, OpenAlways s.runtime env n run target snapshot (.agent leg.1) leg.2 := by
  induction checks generalizing m with
  | nil =>
      exact AnswersAt.pure ⟨late, fun _ _ mem => (List.not_mem_nil mem).elim, nofun⟩
  | cons leg rest ih =>
      have asked : requireOrganizationRoute env host.registered run leg.1 target leg.2 =
          askRegistry env fun store clock => agentRegistry.requireRoute store clock
            run.workspaceId snapshot (.agent leg.1) target leg.2 := by
        obtain ⟨registry, held⟩ := Option.ne_none_iff_exists'.mp wired
        unfold requireOrganizationRoute OrchestrationHost.registered
        rw [pinned, held]
        rfl
      unfold requireLegs
      rw [asked]
      refine (answersAt_requireRoute answered (.agent leg.1) target leg.2 late).bind ?_ ?_
      · rintro u j ⟨later, once, -⟩
        refine (ih later).mono ?_
        rintro r j' ⟨last, others, refused⟩
        refine ⟨last, fun ok => List.forall_mem_cons.mpr ⟨once rfl, others ok⟩, ?_⟩
        intro e raised
        obtain ⟨violates, closed⟩ := refused e raised
        exact ⟨violates, fun always => closed (List.forall_mem_cons.mp always).2⟩
      · rintro e j ⟨later, -, refused⟩
        refine ⟨later, nofun, ?_⟩
        rintro _ ⟨⟩
        obtain ⟨violates, closed⟩ := refused e rfl
        exact ⟨violates, fun always => closed (List.forall_mem_cons.mp always).1⟩

end Pinned

/-- The routing stages keep the agents to which the routes of the run are always open, and
only agents to which each of them was open once. -/
theorem filters_routing {found : List AgentDefinitionVersion}
    (offered : Offered s.runtime at' host run requirements found) :
    Filters s (n ≤ ·) (routing env host.registered run sources kind)
      (fun a => Routed (OpenAlways s.runtime env n run a) run sources kind)
      fun a => Routed (OpenOnce s.runtime env n run a) run sources kind := by
  cases pinned : run.organization with
  | none =>
      rw [routing_unrouted (.inl pinned)]
      exact Filters.idle fun a => Unrouted.routed (.inl pinned)
  | some snapshot =>
      obtain ⟨wired, items, answered⟩ := offered.answered snapshot pinned
      have first : Filters s (n ≤ ·) (routedFromDepartment env host.registered run)
          (fun a => ∀ department, run.sourceDepartment = some department →
            OpenAlways s.runtime env n run a snapshot (.department department) .delegate)
          fun a => ∀ department, run.sourceDepartment = some department →
            OpenOnce s.runtime env n run a snapshot (.department department) .delegate := by
        obtain ⟨registry, held⟩ := Option.ne_none_iff_exists'.mp wired
        intro items
        unfold routedFromDepartment OrchestrationHost.registered
        rw [pinned, held]
        cases started : run.sourceDepartment with
        | none => exact Filters.idle (fun _ => nofun) items
        | some department =>
            refine filters_passing (fun target m late => ?_) items
            refine (answersAt_requireRoute answered (.department department) target .delegate
              late).mono ?_
            rintro r j ⟨later, once, refused⟩
            refine ⟨later, ?_, fun e raised => ?_⟩
            · rintro ok _ ⟨⟩
              exact once ok
            · obtain ⟨violates, closed⟩ := refused e raised
              exact ⟨violates, fun always => closed (always department rfl)⟩
      have second : Filters s (n ≤ ·) (routedFromSources env host.registered run sources kind)
          (fun a => ∀ source ∈ sources, ∀ k ∈ routeKinds kind,
            OpenAlways s.runtime env n run a snapshot (.agent source) k)
          fun a => ∀ source ∈ sources, ∀ k ∈ routeKinds kind,
            OpenOnce s.runtime env n run a snapshot (.agent source) k := by
        intro items
        unfold routedFromSources
        by_cases empty : sources = []
        · rw [if_neg fun both => both.1 empty]
          refine Filters.idle (fun a source mem => ?_) items
          rw [empty] at mem
          exact (List.not_mem_nil mem).elim
        · rw [if_pos ⟨empty, by rw [pinned]; exact nofun⟩]
          refine filters_passing (fun target m late => ?_) items
          rw [requireRoutes_eq]
          refine (answersAt_requireLegs pinned wired answered target _ late).mono ?_
          rintro r j ⟨later, once, refused⟩
          refine ⟨later, fun ok source inside k mem => ?_, fun e raised => ?_⟩
          · exact once ok (source, k) (mem_legs.mpr ⟨inside, mem⟩)
          · obtain ⟨violates, closed⟩ := refused e raised
            refine ⟨violates, fun always => closed fun leg mem => ?_⟩
            obtain ⟨inside, mem⟩ := mem_legs.mp (show (leg.1, leg.2) ∈ legs kind sources from mem)
            exact always leg.1 inside leg.2 mem
      refine (first.bind second).mono (fun a routed => ⟨?_, ?_⟩) fun a both => ⟨?_, ?_⟩
      · exact fun department => routed.department snapshot department pinned
      · exact routed.participants snapshot pinned
      · intro snapshot' department found
        rw [pinned] at found
        cases found
        exact both.1 department
      · intro snapshot' found
        rw [pinned] at found
        cases found
        exact both.2

/-! ## The choice -/

/-- The agents that a request may choose from, before their grants are compared with the
requirements. -/
structure Eligible (Open : AgentDefinitionVersion → OrganizationSnapshot → RouteSource →
      RouteKind → Prop) (s : RuntimeStore) (at' : Instant) (run : OrchestrationRun)
    (requirements : AgentRequirements) (named : Option (List AgentDefinitionVersion))
    (sources : List AgentDefinitionVersion) (kind : RouteKind) (item : AgentDefinitionVersion) :
    Prop where
  policy : run.policy.allows item = true
  listed : ∀ given, named = some given → item ∈ given
  offered : named = none ∨ run.organization ≠ none → Pool s at' run requirements item
  routed : Routed (Open item) run sources kind

/-- The choice among the eligible agents: the best one of the preferred department, else
the best one of all. The department is looked up at an instant. -/
def ChosenFrom (s : RuntimeStore) (then' : Instant) (run : OrchestrationRun)
    (requirements : AgentRequirements) (excluded : List AgentDefinitionVersion)
    (eligible : Set AgentDefinitionVersion) (agent : AgentDefinitionVersion) : Prop :=
  match requirements.preferredDepartment, run.organization with
  | some department, some snapshot => ∃ preferred,
      queryRegistry s then' run.workspaceId snapshot ⟨some department, none, []⟩ =
        .ok preferred ∧
      Filed s run.workspaceId requirements excluded (eligible ∩ (· ∈ preferred)) ∧
      (Best s run.workspaceId requirements excluded (eligible ∩ (· ∈ preferred)) agent ∨
        (∀ a, ¬Fit s run.workspaceId requirements excluded (eligible ∩ (· ∈ preferred)) a) ∧
        Filed s run.workspaceId requirements excluded eligible ∧
        Best s run.workspaceId requirements excluded eligible agent)
  | _, _ => Filed s run.workspaceId requirements excluded eligible ∧
      Best s run.workspaceId requirements excluded eligible agent

variable {excluded : List AgentDefinitionVersion} {eligible : Set AgentDefinitionVersion}
  {agent : AgentDefinitionVersion}

theorem chosenFrom_congr {s : RuntimeStore} {then' : Instant}
    (same : ∀ snapshot, run.organization = some snapshot →
      snapshot.members at' = snapshot.members then') :
    ChosenFrom s at' run requirements excluded eligible agent ↔
      ChosenFrom s then' run requirements excluded eligible agent := by
  unfold ChosenFrom
  cases requirements.preferredDepartment with
  | none => exact Iff.rfl
  | some department =>
      cases pinned : run.organization with
      | none => exact Iff.rfl
      | some snapshot =>
          dsimp only
          rw [queryRegistry_congr (same snapshot pinned)]

/-- The last stage looks the preferred department up at its reading. -/
theorem answersAt_selectPreferred (eligible : List AgentDefinitionVersion)
    (wired : run.organization ≠ none → host.registry ≠ none) :
    AnswersAt s n (selectPreferred env host.registered run requirements eligible excluded)
      fun r _ => ∀ agent, r = .ok agent ↔
        ChosenFrom s.runtime (env.clock n) run requirements excluded (· ∈ eligible) agent := by
  have any (k : Nat) : AnswersAt s k
      (inRuntime (select run.workspaceId requirements eligible excluded))
      fun r _ => ∀ agent, r = .ok agent ↔
        Filed s.runtime run.workspaceId requirements excluded (· ∈ eligible) ∧
        Best s.runtime run.workspaceId requirements excluded (· ∈ eligible) agent :=
    ((answers_inRuntime (answers_select _ _ _ _ eligible)).at
      (reads_inRuntime (reads_select _ _ _ _)) k).mono fun r _ answered => answered.1.1
  unfold selectPreferred ChosenFrom
  cases requirements.preferredDepartment with
  | none => exact any n
  | some department =>
      cases pinned : run.organization with
      | none => exact any n
      | some snapshot =>
          obtain ⟨registry, held⟩ := Option.ne_none_iff_exists'.mp
            (wired (by rw [pinned]; exact nofun))
          unfold OrchestrationHost.registered
          rw [held]
          dsimp only [Option.map_some]
          refine (answersAt_query s env n run.workspaceId snapshot
            ⟨some department, none, []⟩).bind ?_ ?_
          · rintro preferred k ⟨found, -⟩
            rw [← found]
            have both : (fun a => a ∈ eligible.filter (· ∈ preferred)) =
                ((· ∈ eligible) ∩ (· ∈ preferred) : Set AgentDefinitionVersion) := by
              funext a
              exact propext (by rw [List.mem_filter, decide_eq_true_eq]; exact Iff.rfl)
            have near := (answers_inRuntime (answers_select s.runtime run.workspaceId requirements
              excluded (eligible.filter (· ∈ preferred)))).at
                (reads_inRuntime (reads_select _ _ _ _)) k
            rw [both] at near
            refine near.catching ?_ ?_
            · rintro agent k' ⟨⟨ok, -⟩, -⟩ other
              obtain ⟨filed, best⟩ := (ok agent).mp rfl
              constructor
              · rintro ⟨⟩
                exact ⟨preferred, rfl, filed, .inl best⟩
              · rintro ⟨_, ⟨⟩, -, best' | ⟨empty, -⟩⟩
                · rw [best.unique best']
                · exact (empty agent best.fit).elim
            · rintro e k' ⟨⟨ok, raised⟩, -⟩
              have first := raised e rfl
              by_cases empty : isViolationOf "no_eligible_agent" e = true
              · rw [if_pos empty]
                obtain ⟨filed, unfit⟩ := first.mp empty
                refine (any k').mono fun r _ answered agent => (answered agent).trans ?_
                constructor
                · exact fun best => ⟨preferred, rfl, filed, .inr ⟨unfit, best⟩⟩
                · rintro ⟨_, ⟨⟩, -, best | ⟨-, best⟩⟩
                  · exact (unfit agent best.fit).elim
                  · exact best
              · rw [if_neg empty]
                refine AnswersAt.raise fun agent => iff_of_false nofun ?_
                rintro ⟨_, ⟨⟩, filed, best | ⟨unfit, -⟩⟩
                · cases (ok agent).mpr ⟨filed, best⟩
                · exact empty (first.mpr ⟨filed, unfit⟩)
          · rintro e k ⟨raised, -⟩ agent
            rw [← raised]
            exact iff_of_false nofun fun chosen => by cases chosen.choose_spec.1

/-- What the caller's tuple leaves of the candidates. -/
theorem mem_admitted {s : RuntimeStore} {found : List AgentDefinitionVersion}
    (offered : Offered s at' host run requirements found)
    {named : Option (List AgentDefinitionVersion)} {a : AgentDefinitionVersion} :
    a ∈ admitted run found named ↔ run.policy.allows a = true ∧
      (∀ given, named = some given → a ∈ given) ∧
      (named = none ∨ run.organization ≠ none → Pool s at' run requirements a) := by
  cases named with
  | none =>
      refine (offered.pool a).trans ⟨fun both => ⟨both.1, nofun, fun _ => both.2⟩, ?_⟩
      rintro ⟨allowed, -, pool⟩
      exact ⟨allowed, pool (.inl rfl)⟩
  | some given =>
      unfold admitted
      rw [List.mem_filter, Bool.and_eq_true, Bool.or_eq_true, decide_eq_true_eq,
        decide_eq_true_eq, offered.pool a]
      constructor
      · rintro ⟨listed, pool, allowed⟩
        refine ⟨allowed, ?_, fun asked => ?_⟩
        · rintro _ ⟨⟩
          exact listed
        · exact (pool.resolve_left (asked.resolve_left nofun)).2
      · rintro ⟨allowed, listed, pool⟩
        refine ⟨listed given rfl, ?_, allowed⟩
        by_cases pinned : run.organization = none
        · exact .inl pinned
        · exact .inr ⟨allowed, pool (.inr pinned)⟩

theorem Offered.wired {s : RuntimeStore} {found : List AgentDefinitionVersion}
    (offered : Offered s at' host run requirements found) (pinned : run.organization ≠ none) :
    host.registry ≠ none := by
  obtain ⟨snapshot, pinned⟩ := Option.ne_none_iff_exists'.mp pinned
  exact (offered.answered snapshot pinned).1

/-- A selection that goes through its stages: the candidates are offered, the agents that are
left are eligible, all that are eligible at every reading among them, and the choice is made
from them. -/
structure Selected (s : RuntimeStore) (env : Env) (n : Nat) (host : OrchestrationHost)
    (run : OrchestrationRun) (requirements : AgentRequirements)
    (named : Option (List AgentDefinitionVersion)) (sources : List AgentDefinitionVersion)
    (kind : RouteKind) (found items : List AgentDefinitionVersion) (m : Nat) : Prop where
  offered : Offered s (env.clock n) host run requirements found
  may : ∀ a ∈ items,
    Eligible (OpenOnce s env n run) s (env.clock n) run requirements named sources kind a
  sure : ∀ a,
    Eligible (OpenAlways s env n run) s (env.clock n) run requirements named sources kind a →
      a ∈ items
  late : n ≤ m
  next : Unrouted run sources → run.organization ≠ none → m = n + 1

variable (s env n host run requirements excluded sources kind) in
/-- What `select_agent` answers, for every candidate tuple of a request. -/
theorem answersAt_selectAgent :
    ∃ r, AnswersAt s n (candidates env host.registered run requirements) (fun r' _ => r' = r) ∧
      ∀ named, AnswersAt s n (selectAgent env host.registered run requirements named excluded
        sources kind) fun r' _ =>
          (∃ found items m, r = .ok found ∧
            Selected s.runtime env n host run requirements named sources kind found items m ∧
            ∀ agent, r' = .ok agent ↔
              ChosenFrom s.runtime (env.clock m) run requirements excluded (· ∈ items) agent) ∨
          ∃ e, r = .error e ∧ r' = .error e := by
  obtain ⟨r, answers, spec⟩ := answersAt_candidates s env n host run requirements
  refine ⟨r, answers.mono fun _ _ => And.left, fun named => answers.bind ?_ ?_⟩
  · rintro found k ⟨rfl, readings⟩
    have offered := spec found rfl
    have started := readings found rfl
    have late : n ≤ k := by
      split at started <;> omega
    rw [← bind_assoc]
    -- Without a route the stages make no readings.
    have kept : Filters s (fun m => n ≤ m ∧ (Unrouted run sources → m = k))
        (routing env host.registered run sources kind)
        (fun a => Routed (OpenAlways s.runtime env n run a) run sources kind)
        fun a => Routed (OpenOnce s.runtime env n run a) run sources kind := by
      by_cases free : Unrouted run sources
      · rw [routing_unrouted free]
        exact Filters.idle fun a => free.routed
      · intro items m after'
        refine (filters_routing offered items m after'.1).mono ?_
        rintro r' j ⟨later, routed⟩
        exact ⟨⟨later, fun none' => (free none').elim⟩, routed⟩
    refine (kept (admitted run found named) k ⟨late, fun _ => rfl⟩).bind ?_ ?_
    · rintro items m ⟨⟨later, free⟩, _, ⟨⟩, mem⟩
      refine (answersAt_selectPreferred items offered.wired).mono fun r' _ answered => ?_
      refine .inl ⟨found, items, m, rfl, ⟨offered, fun a inside => ?_, fun a sure => ?_, later,
        fun unrouted pinned => ?_⟩, answered⟩
      · obtain ⟨inside, routed⟩ := (mem a).1 inside
        obtain ⟨allowed, listed, pool⟩ := (mem_admitted offered).mp inside
        exact ⟨allowed, listed, pool, routed⟩
      · exact (mem a).2 ⟨(mem_admitted offered).mpr ⟨sure.policy, sure.listed, sure.offered⟩,
          sure.routed⟩
      · rw [free unrouted, started, if_neg pinned]
    · rintro _ _ ⟨-, _, ⟨⟩, -⟩
  · rintro e k ⟨rfl, -⟩
    exact .inr ⟨e, rfl, rfl⟩

variable (env) in
/-- What `select_agent` answers when the routes are steady. -/
theorem answersAt_selectAgent_steady (host : OrchestrationHost) (run : OrchestrationRun)
    (requirements : AgentRequirements) (excluded sources : List AgentDefinitionVersion)
    (kind : RouteKind) (steady : RoutesSteady env run sources n) :
    ∃ r, AnswersAt s n (candidates env host.registered run requirements) (fun r' _ => r' = r) ∧
      ∀ named, AnswersAt s n (selectAgent env host.registered run requirements named excluded
          sources kind) fun r' _ => ∀ agent, r' = .ok agent ↔ (∃ found, r = .ok found) ∧
        ChosenFrom s.runtime (env.clock (n + 1)) run requirements excluded
          (Eligible (OpenOnce s.runtime env n run) s.runtime (env.clock n) run requirements named
            sources kind) agent := by
  obtain ⟨r, asked, answers⟩ := answersAt_selectAgent s env n host run requirements sources kind
    excluded
  refine ⟨r, asked, fun named => (answers named).mono fun r' _ answered agent => ?_⟩
  rcases answered with ⟨found, items, m, rfl, selected, answered⟩ | ⟨e, rfl, rfl⟩
  · have same : (fun a => a ∈ items) = Eligible (OpenOnce s.runtime env n run) s.runtime
        (env.clock n) run requirements named sources kind := by
      funext a
      refine propext ⟨selected.may a, fun once => selected.sure a ?_⟩
      exact ⟨once.policy, once.listed, once.offered, steady.always once.routed⟩
    rw [answered, same, and_iff_right ⟨found, rfl⟩]
    refine chosenFrom_congr fun snapshot pinned => ?_
    rcases steady with free | still
    · rw [selected.next free (by rw [pinned]; exact nofun)]
    · exact (still snapshot pinned m selected.late).trans
        (still snapshot pinned (n + 1) n.le_succ).symm
  · exact iff_of_false nofun fun chosen => by cases chosen.1.choose_spec

/-- No fit agent of a set goes before an agent: it is of the preferred department when some
fit agent is, and it ranks before every fit agent that the preference does not put behind
it. -/
structure Foremost (s : RuntimeStore) (then' : Instant) (run : OrchestrationRun)
    (requirements : AgentRequirements) (excluded : List AgentDefinitionVersion)
    (eligible : Set AgentDefinitionVersion) (agent : AgentDefinitionVersion) : Prop where
  preferred : ∀ snapshot department, run.organization = some snapshot →
    requirements.preferredDepartment = some department →
    ∀ other, Fit s run.workspaceId requirements excluded eligible other →
    Discoverable s then' run.workspaceId snapshot ⟨some department, none, []⟩ other →
    Discoverable s then' run.workspaceId snapshot ⟨some department, none, []⟩ agent
  least : ∀ other, Fit s run.workspaceId requirements excluded eligible other →
    (∀ snapshot department, run.organization = some snapshot →
      requirements.preferredDepartment = some department →
      Discoverable s then' run.workspaceId snapshot ⟨some department, none, []⟩ agent →
      Discoverable s then' run.workspaceId snapshot ⟨some department, none, []⟩ other) →
    RanksAhead s agent other

theorem Foremost.mono {s : RuntimeStore} {others : Set AgentDefinitionVersion}
    (h : Foremost s at' run requirements excluded eligible agent)
    (inside : ∀ a ∈ others, a ∈ eligible) :
    Foremost s at' run requirements excluded others agent :=
  ⟨fun snapshot department pinned wanted other fit =>
      h.preferred snapshot department pinned wanted other (fit.mono (inside other)),
    fun other fit => h.least other (fit.mono (inside other))⟩

theorem ChosenFrom.foremost {s : RuntimeStore}
    (h : ChosenFrom s at' run requirements excluded eligible agent) :
    Fit s run.workspaceId requirements excluded eligible agent ∧
      Foremost s at' run requirements excluded eligible agent := by
  unfold ChosenFrom at h
  cases wanted : requirements.preferredDepartment with
  | none =>
      rw [wanted] at h
      refine ⟨h.2.fit, ?_, fun other fit _ => h.2.least other fit⟩
      intro _ _ _ found
      rw [wanted] at found
      cases found
  | some department =>
      cases pinned : run.organization with
      | none =>
          rw [wanted, pinned] at h
          refine ⟨h.2.fit, ?_, fun other fit _ => h.2.least other fit⟩
          intro _ _ found
          rw [pinned] at found
          cases found
      | some snapshot =>
          rw [wanted, pinned] at h
          obtain ⟨preferred, answered, -, best | ⟨unfit, -, best⟩⟩ := h
          · refine ⟨best.fit.mono And.left, ?_, ?_⟩
            · intro snapshot' department' here here' _ _ _
              rw [pinned] at here
              rw [wanted] at here'
              cases here
              cases here'
              exact (mem_queryRegistry answered).mp best.fit.candidate.2
            · intro other fit near
              have known := near snapshot department pinned wanted
                ((mem_queryRegistry answered).mp best.fit.candidate.2)
              exact best.least other
                (fit.mono fun inside => ⟨inside, (mem_queryRegistry answered).mpr known⟩)
          · refine ⟨best.fit, ?_, fun other fit _ => best.least other fit⟩
            intro snapshot' department' here here' other fit known
            rw [pinned] at here
            rw [wanted] at here'
            cases here
            cases here'
            exact (unfit other
              (fit.mono fun inside => ⟨inside, (mem_queryRegistry answered).mpr known⟩)).elim

/-- The agent that a request gets under any clock. Without an organization nothing has asked
for one. The agent is fit and eligible, its routes open when they were checked, and none of
the fit agents that were eligible at every reading goes before it; the preferred department
is looked up at one of the readings, the second one when no route is checked. -/
structure Chosen (s : RuntimeStore) (env : Env) (n : Nat) (run : OrchestrationRun)
    (requirements : AgentRequirements) (named : Option (List AgentDefinitionVersion))
    (excluded sources : List AgentDefinitionVersion) (kind : RouteKind)
    (agent : AgentDefinitionVersion) : Prop where
  plain : run.organization = none → ¬requirements.Organizational ∧ run.sourceDepartment = none
  fit : Fit s run.workspaceId requirements excluded
    (Eligible (OpenOnce s env n run) s (env.clock n) run requirements named sources kind) agent
  foremost : ∃ m, n ≤ m ∧ (Unrouted run sources → run.organization ≠ none → m = n + 1) ∧
    Foremost s (env.clock m) run requirements excluded
      (Eligible (OpenAlways s env n run) s (env.clock n) run requirements named sources kind)
      agent

/-- The run without its organization. -/
def OrchestrationRun.unpinned (run : OrchestrationRun) : OrchestrationRun :=
  ⟨{ run.toOrchestrationFields with organization := none, sourceDepartment := none },
    ⟨run.valid.ended, run.valid.replans, run.valid.agentRuns⟩⟩

variable (env host) in
/-- A run without an organization has its candidates when the requirements do not speak of
one. -/
theorem answers_candidates_unpinned (plain : ¬requirements.Organizational)
    {workspace : Workspace}
    (home : s.runtime.domain.workspaces.get? run.workspaceId = some workspace) :
    ∃ found, Answers s (candidates env host run.unpinned requirements) (· = .ok found) := by
  have asked : ¬(requirements.capabilityIds ≠ [] ∨ requirements.requiredDepartment ≠ none ∨
      requirements.preferredDepartment ≠ none ∨ requirements.organizationalRole ≠ none ∨
      run.unpinned.sourceDepartment ≠ none) := by
    rintro (h | h | h | h | h)
    · exact plain (.inl h)
    · exact plain (.inr (.inl h))
    · exact plain (.inr (.inr (.inl h)))
    · exact plain (.inr (.inr (.inr h)))
    · exact h rfl
  have workspace' : Answers s.runtime (Runtime.inDomain (getWorkspace run.workspaceId))
      (· = .ok workspace) := by
    refine Answers.zoom rfl (Answers.getStore.bind_ok ((Answers.need _ _).mono fun r same => ?_))
    exact same.trans (congrArg (fun found => Option.elim found _ Except.ok) home)
  have listed : Answers s.runtime (listDefinitions run.workspaceId) (· = .ok
      (s.runtime.definitions.values.filter (·.definition.workspaceId = run.workspaceId))) :=
    workspace'.bind_ok (Answers.getStore.bind_ok (Answers.pure rfl))
  exact ⟨_, (Answers.raiseIf_of_not asked _).bind_ok
    ((answers_inRuntime listed).bind_ok (Answers.pure rfl))⟩

/-- A published agent that covers plain requirements and that the policy allows is the answer
to a caller who names it to a run without an organization. -/
theorem unpinned_selects (plain : ¬requirements.Organizational) {w : World OrchestrationStore}
    (stored : w.store.runtime.domain.workspaces.get? run.workspaceId ≠ none)
    (published : Published w.store.runtime run.workspaceId agent)
    (able : covers run.workspaceId requirements excluded agent = true)
    (allowed : run.policy.allows agent = true) :
    ∃ w', selectAgent env host.registered run.unpinned requirements (some [agent]) excluded
      sources kind w = .ok agent w' := by
  obtain ⟨workspace, home⟩ := Option.ne_none_iff_exists'.mp stored
  have free : Unrouted run.unpinned sources := .inl rfl
  obtain ⟨r, asked, answers⟩ := answersAt_selectAgent_steady env (s := w.store)
    (n := w.reads) host run.unpinned requirements excluded sources kind (.inl free)
  obtain ⟨found, known⟩ := answers_candidates_unpinned env host.registered plain home
  have ready : r = .ok found := (asked w rfl rfl).2.symm.trans (known w rfl).2
  let eligible : Set AgentDefinitionVersion := Eligible (OpenOnce w.store.runtime env w.reads
    run.unpinned) w.store.runtime (env.clock w.reads) run.unpinned requirements (some [agent])
    sources kind
  have alone (other : AgentDefinitionVersion) (inside : other ∈ eligible) : other = agent :=
    List.mem_singleton.mp (inside.listed _ rfl)
  have own : agent ∈ eligible := by
    refine ⟨allowed, ?_, fun offered => (offered.elim nofun (absurd rfl ·)), free.routed⟩
    rintro _ ⟨⟩
    exact List.mem_singleton_self agent
  have filed : Filed w.store.runtime run.workspaceId requirements excluded eligible := by
    intro other inside _
    rw [alone other inside]
    exact ⟨agent, published⟩
  have best : Best w.store.runtime run.workspaceId requirements excluded eligible agent := by
    refine ⟨⟨own, able, published⟩, fun other fit => ?_⟩
    rw [alone other fit.candidate]
    exact (Std.Total.total (r := ranksBefore) (_, agent) (_, agent)).elim id id
  have chosen : ChosenFrom w.store.runtime (env.clock (w.reads + 1)) run.unpinned requirements
      excluded eligible agent := by
    unfold ChosenFrom
    cases requirements.preferredDepartment with
    | none => exact ⟨filed, best⟩
    | some department => exact ⟨filed, best⟩
  exact ((answers (some [agent])).mono fun r' _ answered =>
    (answered agent).mpr ⟨⟨found, ready⟩, chosen⟩).returns

end Stages

/-! ## Agent selection -/

/-- Under any clock nothing is stored and an agent that is returned is the chosen one. While
no membership of the pinned graph begins or ends, the order of a candidate tuple and its
duplicates do not matter. And an agent that a run pinned to an organization gets is one that
the same run gets without it when the caller names the agent, unless the requirements speak
of the organization. -/
theorem agent_selection (env : Env) (host : OrchestrationHost) (run : OrchestrationRun)
    (requirements : AgentRequirements) (excluded sources : List AgentDefinitionVersion)
    (kind : RouteKind) (w : World OrchestrationStore) :
    (∀ named, (World.after (selectAgent env host.registered run requirements named excluded
      sources kind w)).store = w.store) ∧
    (∀ named agent w', selectAgent env host.registered run requirements named excluded sources
        kind w = .ok agent w' →
      Chosen w.store.runtime env w.reads run requirements named excluded sources kind agent) ∧
    (RoutesSteady env run sources w.reads →
      ∀ given given' : List AgentDefinitionVersion, (∀ a, a ∈ given ↔ a ∈ given') → ∀ agent,
        (∃ w', selectAgent env host.registered run requirements (some given) excluded sources
          kind w = .ok agent w') ↔
        ∃ w', selectAgent env host.registered run requirements (some given') excluded sources
          kind w = .ok agent w') ∧
    (¬requirements.Organizational →
      w.store.runtime.domain.workspaces.get? run.workspaceId ≠ none →
      ∀ named agent w', selectAgent env host.registered run requirements named excluded sources
          kind w = .ok agent w' →
        ∃ w'', selectAgent env host.registered run.unpinned requirements (some [agent]) excluded
          sources kind w = .ok agent w'') := by
  have returned (named : Option (List AgentDefinitionVersion)) (agent : AgentDefinitionVersion)
      (w' : World OrchestrationStore)
      (h : selectAgent env host.registered run requirements named excluded sources kind w =
        .ok agent w') :
      Chosen w.store.runtime env w.reads run requirements named excluded sources kind agent := by
    obtain ⟨r, -, answers⟩ := answersAt_selectAgent w.store env w.reads host run requirements
      sources kind excluded
    rcases ((answers named).of_ok h).2 with ⟨found, items, m, -, selected, answered⟩ | ⟨e, -, no⟩
    · obtain ⟨fit, foremost⟩ := ((answered agent).mp rfl).foremost
      exact ⟨selected.offered.plain, fit.mono (selected.may agent), m, selected.late,
        selected.next, foremost.mono selected.sure⟩
    · cases no
  refine ⟨?_, returned, ?_, ?_⟩
  · intro named
    exact (idle_selectAgent env host.registered run requirements named excluded sources kind w).2
  · intro steady given given' same agent
    obtain ⟨r, -, answers⟩ := answersAt_selectAgent_steady env (s := w.store) host run requirements
      excluded sources kind steady
    have returns (named : List AgentDefinitionVersion) :
        (∃ w', selectAgent env host.registered run requirements (some named) excluded sources kind
          w = .ok agent w') ↔ (∃ found, r = .ok found) ∧ ChosenFrom w.store.runtime
            (env.clock (w.reads + 1)) run requirements excluded (Eligible (OpenOnce
              w.store.runtime env w.reads run) w.store.runtime (env.clock w.reads) run
              requirements (some named) sources kind) agent := by
      constructor
      · rintro ⟨w', h⟩
        exact (((answers (some named)).of_ok h).2 agent).mp rfl
      · intro chosen
        exact ((answers (some named)).mono fun r' _ answered =>
          (answered agent).mpr chosen).returns
    have alike : Eligible (OpenOnce w.store.runtime env w.reads run) w.store.runtime
          (env.clock w.reads) run requirements (some given) sources kind =
        Eligible (OpenOnce w.store.runtime env w.reads run) w.store.runtime
          (env.clock w.reads) run requirements (some given') sources kind := by
      funext a
      refine propext ⟨fun e => ⟨e.policy, ?_, ?_, e.routed⟩, fun e => ⟨e.policy, ?_, ?_, e.routed⟩⟩
      · rintro _ ⟨⟩
        exact (same a).mp (e.listed given rfl)
      · exact fun offered => e.offered (offered.imp nofun id)
      · rintro _ ⟨⟩
        exact (same a).mpr (e.listed given' rfl)
      · exact fun offered => e.offered (offered.imp nofun id)
    rw [returns, returns, alike]
  · intro plain stored named agent w' h
    have fit := (returned named agent w' h).fit
    exact unpinned_selects plain stored fit.published fit.covers fit.candidate.policy

/-! ### An older version and a membership that ends -/

/-- A version of a writer. -/
def writer (version : Version) : AgentDefinitionVersion :=
  { senderDefinition with
    definition := ⟨numbered .agentDefinition 1, sampleWorkspace, txt "author"⟩
    version := version }

/-- The writer's first version is a discoverable member of the one department. -/
def writingOrganization : OrganizationSnapshot where
  graph :=
    { graphId := numbered .organizationGraph 2
      workspaceId := sampleWorkspace
      version := .initial
      departments := [⟨numbered .department 3, sampleWorkspace, true⟩]
      roles := [⟨numbered .orgRole 4, sampleWorkspace, false⟩]
      capabilities := []
      agents := [⟨sampleWorkspace, numbered .agentDefinition 1, .initial⟩]
      memberships := [⟨sampleWorkspace, numbered .agentDefinition 1, numbered .department 3,
        numbered .orgRole 4, true, true, none, none⟩]
      reporting := []
      policy := ⟨[]⟩
      bounds := {}
      schemaVersion := 1 }
  capturedAt := 0

/-- Both versions of the writer are published; an organization is stored. -/
def storeWith (organization : OrganizationSnapshot) : OrchestrationStore where
  toOrchestrationTables := .empty
  runtime :=
    { RuntimeStore.empty with
      domain := { DomainStore.empty with
        workspaces := Registry.empty.put ⟨sampleWorkspace, txt "acme", .initial, 0, 0⟩ }
      definitions := (Registry.empty.put (writer .initial)).put (writer (changed 1))
      graphs := Registry.empty.put
        ⟨numbered .organizationGraph 2, sampleWorkspace, txt "acme", .initial, some .initial⟩
      graphVersions := Registry.empty.put organization.graph }

/-- A run that is pinned to an organization. -/
def writingRun (organization : OrganizationSnapshot) (source : Option DepartmentId) :
    OrchestrationRun where
  id := numbered .orchestrationRun 5
  workspaceId := sampleWorkspace
  goalId := numbered .goal 6
  strategyId := py "strategy"
  strategyVersion := py "1"
  policy := .default
  createdAt := 0
  organization := some organization
  sourceDepartment := source
  valid := ⟨rfl, Nat.zero_le _, Nat.zero_le _⟩

/-- A host with the agent registry. -/
def registryHost : OrchestrationHost :=
  ⟨py "strategy", py "1", some agentRegistry, sampleHost⟩

/-- The version of the agent that a request gets. -/
def versionChosen (env : Env) (run : OrchestrationRun) (organization : OrganizationSnapshot)
    (named : Option (List AgentDefinitionVersion)) : Option Nat :=
  match World.answer (selectAgent env registryHost.registered run .none named [] [] .delegate
      ⟨storeWith organization, 0, 0⟩) with
  | .ok agent => some agent.version.value
  | .error _ => none

/-- The writer leaves a second department at instant five; only the first one may be reached
from the department that a run is started for. -/
def movingOrganization : OrganizationSnapshot where
  graph :=
    { writingOrganization.graph with
      departments := [⟨numbered .department 3, sampleWorkspace, true⟩,
        ⟨numbered .department 7, sampleWorkspace, true⟩,
        ⟨numbered .department 8, sampleWorkspace, true⟩]
      memberships := [⟨sampleWorkspace, numbered .agentDefinition 1, numbered .department 3,
          numbered .orgRole 4, true, true, none, none⟩,
        ⟨sampleWorkspace, numbered .agentDefinition 1, numbered .department 7,
          numbered .orgRole 4, true, true, none, some 5⟩]
      policy := ⟨[⟨numbered .department 8, numbered .department 3, .delegate, true⟩]⟩ }
  capturedAt := 0

/-- A clock that passes instant five after its third reading. -/
def passingClock : Env :=
  ⟨numbered, fun reading => if reading < 3 then 0 else 10⟩

/-- With the organization the first version of the writer is chosen, and without it the
same request never gets that version. And when a membership ends during the call, a request
that names the writer twice gets it, and one that names it once does not. -/
theorem agent_selection_fails :
    (versionChosen (Env.still numbered 0) (writingRun writingOrganization none)
        writingOrganization none = some 1 ∧
      ∀ excluded agent w', selectAgent (Env.still numbered 0) registryHost.registered
        (writingRun writingOrganization none).unpinned .none none excluded [] .delegate
        ⟨storeWith writingOrganization, 0, 0⟩ = .ok agent w' → agent.version.value ≠ 1) ∧
    versionChosen passingClock (writingRun movingOrganization (some (numbered .department 8)))
      movingOrganization (some [writer .initial, writer .initial]) = some 1 ∧
    versionChosen passingClock (writingRun movingOrganization (some (numbered .department 8)))
      movingOrganization (some [writer .initial]) = none := by
  refine ⟨⟨by decide +kernel, fun excluded agent w' h => ?_⟩, by decide +kernel,
    by decide +kernel⟩
  have free : Unrouted (writingRun writingOrganization none).unpinned [] := .inl rfl
  obtain ⟨r, -, answers⟩ := answersAt_selectAgent_steady (Env.still numbered 0)
    (s := storeWith writingOrganization) (n := 0) registryHost
    (writingRun writingOrganization none).unpinned .none excluded [] .delegate (.inl free)
  have chosen := ((((answers none).of_ok h).2 agent).mp rfl).2.foremost.1.candidate
  obtain ⟨newest, -⟩ := chosen.offered (.inl rfl)
  have listed : agent ∈ [writer .initial, writer (changed 1)] :=
    Registry.mem_values_of_get? newest.published.1
  rcases List.mem_cons.mp listed with rfl | second
  · -- The second version is stored too, and it is newer.
    have second : Published (storeWith writingOrganization).runtime sampleWorkspace
        (writer (changed 1)) := ⟨Registry.get?_put_self _ _, rfl⟩
    exact absurd (newest.last _ second rfl) (by decide)
  · rw [List.mem_singleton.mp second]
    exact (by decide)

end AgentCompanyOS.Orchestration
