import AgentCompanyOS.Orchestration.Selection

/-!
# The agent registry

`AgentRegistry` over the stored records. `query` finds the registered definitions that an
effective membership makes discoverable. `require_route` compares the departments of the
two participants with the policy; it reads the clock once for its query and once more for
the departments. What each of them answers is characterized by the graph and the instants
read alone (`Discoverable`, `Reachable`).
-/

set_option autoImplicit false

namespace AgentCompanyOS.Orchestration

open Foundation Foundation.Txn Domain AgentCompanyOS.Runtime

/-- What a program that only reads answers on a store. -/
def answerOf {α : Type} (s : RuntimeStore) (m : RuntimeTxn α) : Except Exc α :=
  World.answer (m ⟨s, 0, 0⟩)

/-! ## Queries -/

/-- `_validate`. -/
def validateSnapshot (s : RuntimeStore) (workspaceId : WorkspaceId)
    (snapshot : OrganizationSnapshot) : Except Exc Unit :=
  if snapshot.graph.workspaceId ≠ workspaceId then
    .error (.domain (.workspaceMismatch (py "OrganizationSnapshot") workspaceId.value
      snapshot.graph.workspaceId.value))
  else do
    let stored ← answerOf s (getGraphVersion workspaceId snapshot.graph.version)
    if stored ≠ snapshot.graph then .error (violation "forged_organization_snapshot") else .ok ()

/-- The capabilities that are active. -/
def activeCapabilities (graph : OrganizationGraphVersion) : List CapabilityId :=
  (graph.capabilities.filter CapabilityDefinition.active).map CapabilityDefinition.id

/-- A query filters by something that the graph does not have. -/
def RegistryQuery.unknown (query : RegistryQuery) (graph : OrganizationGraphVersion) : Bool :=
  query.departmentId.any (fun id => !(graph.departments.map Department.id).contains id) ||
  query.roleId.any (fun id => !(graph.roles.map OrgRole.id).contains id) ||
  !subset query.capabilityIds (graph.capabilities.map CapabilityDefinition.id)

/-- A membership makes its agent discoverable for a query. -/
def RegistryQuery.admits (query : RegistryQuery) (agent : AgentDefinitionId)
    (m : DepartmentMembership) : Bool :=
  m.agentId = agent && m.discoverable && query.departmentId.all (· = m.departmentId) &&
  query.roleId.all (· = m.roleId)

/-- A registered definition is enabled and has the capabilities of a query, all active. -/
def RegistryQuery.offered (query : RegistryQuery) (graph : OrganizationGraphVersion)
    (item : AgentDefinitionVersion) : Bool :=
  item.enabled && subset query.capabilityIds item.capabilityIds &&
  subset query.capabilityIds (activeCapabilities graph)

/-- The registered definitions that a query finds. -/
def discovered (s : RuntimeStore) (workspaceId : WorkspaceId) (graph : OrganizationGraphVersion)
    (members : List DepartmentMembership) (query : RegistryQuery) :
    List RegisteredAgent → Except Exc (List AgentDefinitionVersion)
  | [] => .ok []
  | ref :: rest => do
      let item ← answerOf s (getDefinition workspaceId ref.agentId ref.version)
      let found ← discovered s workspaceId graph members query rest
      .ok (if query.offered graph item && members.any (query.admits ref.agentId) then item :: found
        else found)

/-- The order of the answer of `query`. -/
def definitionLe (a b : AgentDefinitionVersion) : Prop :=
  a.definition.id.value < b.definition.id.value ∨
    a.definition.id.value = b.definition.id.value ∧ a.version.value ≤ b.version.value

instance : DecidableRel definitionLe := fun _ _ => inferInstanceAs (Decidable (_ ∨ _))

/-- `RegistryQuery()`. -/
def RegistryQuery.all : RegistryQuery := ⟨none, none, []⟩

/-- `query`. -/
def queryRegistry (s : RuntimeStore) (at' : Instant) (workspaceId : WorkspaceId)
    (snapshot : OrganizationSnapshot) (query : RegistryQuery) :
    Except Exc (List AgentDefinitionVersion) := do
  validateSnapshot s workspaceId snapshot
  if query.unknown snapshot.graph = true then .error (violation "unknown_registry_filter")
  else
    let found ← discovered s workspaceId snapshot.graph (snapshot.members at') query
      snapshot.graph.agents
    .ok (found.insertionSort definitionLe)

/-- The clock readings of `query`: `_members` reads once, after the checks. -/
def queryReadings (s : RuntimeStore) (workspaceId : WorkspaceId) (snapshot : OrganizationSnapshot)
    (query : RegistryQuery) : Nat :=
  match validateSnapshot s workspaceId snapshot with
  | .error _ => 0
  | .ok _ => if query.unknown snapshot.graph = true then 0 else 1

/-! ## Routes -/

/-- The departments that an agent is an effective member of. -/
def departmentsOf (members : List DepartmentMembership) (agent : AgentDefinitionId) :
    List DepartmentId :=
  (members.filter (·.agentId = agent)).map DepartmentMembership.departmentId

/-- The departments that a route starts in. -/
def RouteSource.departments (source : RouteSource) (members : List DepartmentMembership) :
    List DepartmentId :=
  match source with
  | .department id => [id]
  | .agent definition => departmentsOf members definition.definition.id

/-- A participant is among the candidates; a department needs not be. -/
def RouteSource.among (source : RouteSource) (candidates : List AgentDefinitionVersion) : Bool :=
  match source with
  | .department _ => true
  | .agent definition => candidates.contains definition

/-- The policy allows a route between all departments of its participants. -/
def routeAllowed (graph : OrganizationGraphVersion) (sources targets : List DepartmentId)
    (kind : RouteKind) : Bool :=
  subset sources graph.activeDepartments && !sources.isEmpty && !targets.isEmpty &&
  sources.all fun s => targets.all fun t => graph.policy.allows s t kind

/-- `require_route`. The query reads the clock at the one instant, `_members` at the other. -/
def requireRegistryRoute (s : RuntimeStore) (at' then' : Instant) (workspaceId : WorkspaceId)
    (snapshot : OrganizationSnapshot) (source : RouteSource) (target : AgentDefinitionVersion)
    (kind : RouteKind) : Except Exc Unit := do
  validateSnapshot s workspaceId snapshot
  let candidates ← queryRegistry s at' workspaceId snapshot .all
  let members := snapshot.members then'
  if candidates.contains target = false ∨ source.among candidates = false then
    .error (violation "organization_participant_unavailable")
  else if routeAllowed snapshot.graph (source.departments members)
      (departmentsOf members target.definition.id) kind = false then
    .error (violation "organization_route_denied")
  else .ok ()

/-- The clock readings of `require_route`: those of the query, and one more when both
participants are among the candidates. -/
def routeReadings (s : RuntimeStore) (at' : Instant) (workspaceId : WorkspaceId)
    (snapshot : OrganizationSnapshot) (source : RouteSource) (target : AgentDefinitionVersion) :
    Nat :=
  match queryRegistry s at' workspaceId snapshot .all with
  | .error _ => queryReadings s workspaceId snapshot .all
  | .ok candidates =>
      if candidates.contains target = false ∨ source.among candidates = false then 1 else 2

/-- `capture`. -/
def captureRegistry (s : RuntimeStore) (at' : Instant) (workspaceId : WorkspaceId) :
    Except Exc OrganizationSnapshot := do
  let graph ← answerOf s (getGraph workspaceId)
  match graph.activeVersion with
  | none => .error (violation "organization_requires_active_version")
  | some version => do
      let stored ← answerOf s (getGraphVersion workspaceId version)
      .ok ⟨stored, at'⟩

/-- The clock readings of `capture`: one, once the active version is found. -/
def captureReadings (captured : Except Exc OrganizationSnapshot) : Nat :=
  match captured with
  | .ok _ => 1
  | .error _ => 0

/-- `AgentRegistry`. -/
def agentRegistry : AgentRegistryPort where
  capture store clock workspaceId :=
    let captured := captureRegistry store (clock 0) workspaceId
    (captured, captureReadings captured)
  query store clock workspaceId snapshot query :=
    (queryRegistry store (clock 0) workspaceId snapshot query,
      queryReadings store workspaceId snapshot query)
  requireRoute store clock workspaceId snapshot source target kind :=
    (requireRegistryRoute store (clock 0) (clock 1) workspaceId snapshot source target kind,
      routeReadings store (clock 0) workspaceId snapshot source target)

/-! ## What the registry answers -/

section Answers

variable {s : RuntimeStore} {at' then' : Instant} {workspaceId : WorkspaceId}
  {snapshot : OrganizationSnapshot} {query : RegistryQuery} {item : AgentDefinitionVersion}

/-- A stored definition of the workspace. -/
def Published (s : RuntimeStore) (workspaceId : WorkspaceId) (item : AgentDefinitionVersion) :
    Prop :=
  s.definitions.get? item.key = some item ∧ item.definition.workspaceId = workspaceId

theorem answerOf_getDefinition {id : AgentDefinitionId} {version : Version} :
    answerOf s (getDefinition workspaceId id version) = .ok item ↔
      Published s workspaceId item ∧ item.key = (id, version) := by
  unfold answerOf getDefinition
  cases found : s.definitions.get? (id, version) with
  | none =>
      constructor
      · intro answered
        rw [bind_of_ok (show (getStore : RuntimeTxn _) ⟨s, 0, 0⟩ = .ok s ⟨s, 0, 0⟩ from rfl),
          found] at answered
        cases answered
      · rintro ⟨⟨stored, -⟩, same⟩
        rw [same, found] at stored
        cases stored
  | some definition =>
      have key : definition.key = (id, version) := Registry.key_of_get? found
      rw [bind_of_ok (show (getStore : RuntimeTxn _) ⟨s, 0, 0⟩ = .ok s ⟨s, 0, 0⟩ from rfl),
        bind_of_ok (need_of_some found _)]
      unfold scope
      by_cases here : workspaceId = definition.definition.workspaceId
      · rw [bind_of_ok (raiseIf_of_not (by simpa using here) _)]
        constructor
        · intro answered
          cases answered
          exact ⟨⟨key ▸ found, here.symm⟩, key⟩
        · rintro ⟨⟨stored, -⟩, same⟩
          rw [same, found] at stored
          cases stored
          rfl
      · rw [bind_of_error (raiseIf_of here _)]
        constructor
        · intro answered
          cases answered
        · rintro ⟨⟨stored, home⟩, same⟩
          rw [same, found] at stored
          cases stored
          exact absurd home.symm here

/-- A stored definition that the graph lists, that a query asks for and that an effective
membership makes discoverable. -/
structure Discoverable (s : RuntimeStore) (at' : Instant) (workspaceId : WorkspaceId)
    (snapshot : OrganizationSnapshot) (query : RegistryQuery) (item : AgentDefinitionVersion) :
    Prop where
  published : Published s workspaceId item
  listed : ∃ ref ∈ snapshot.graph.agents, item.key = (ref.agentId, ref.version)
  offered : query.offered snapshot.graph item = true
  admitted : ∃ m ∈ snapshot.members at', query.admits item.definition.id m = true

/-- Both participants are discoverable at the one instant, and at the other the policy of the
graph routes from every department of the source to every department of the target. -/
structure Reachable (s : RuntimeStore) (at' then' : Instant) (workspaceId : WorkspaceId)
    (snapshot : OrganizationSnapshot) (source : RouteSource) (target : AgentDefinitionVersion)
    (kind : RouteKind) : Prop where
  known : Discoverable s at' workspaceId snapshot .all target
  participant : ∀ definition, source = .agent definition →
    Discoverable s at' workspaceId snapshot .all definition
  routed : routeAllowed snapshot.graph (source.departments (snapshot.members then'))
    (departmentsOf (snapshot.members then') target.definition.id) kind = true

theorem mem_discovered {graph : OrganizationGraphVersion} {members : List DepartmentMembership}
    {refs : List RegisteredAgent} {found : List AgentDefinitionVersion}
    (h : discovered s workspaceId graph members query refs = .ok found) :
    item ∈ found ↔ Published s workspaceId item ∧
      (∃ ref ∈ refs, item.key = (ref.agentId, ref.version)) ∧
      query.offered graph item = true ∧
      ∃ m ∈ members, query.admits item.definition.id m = true := by
  induction refs generalizing found with
  | nil =>
      cases h
      constructor
      · exact fun mem => (List.not_mem_nil mem).elim
      · rintro ⟨-, ⟨ref, mem, -⟩, -⟩
        exact (List.not_mem_nil mem).elim
  | cons ref rest ih =>
      obtain ⟨first, asked, h⟩ := except_bind_ok h
      obtain ⟨others, later, h⟩ := except_bind_ok h
      obtain ⟨stored, key⟩ := answerOf_getDefinition.mp asked
      have agent : first.definition.id = ref.agentId := congrArg Prod.fst key
      have split : item ∈ found ↔ (item = first ∧ query.offered graph first = true ∧
          ∃ m ∈ members, query.admits ref.agentId m = true) ∨ item ∈ others := by
        cases h
        split
        · rename_i shown
          rw [Bool.and_eq_true, List.any_eq_true] at shown
          rw [List.mem_cons]
          exact or_congr_left ⟨fun same => ⟨same, shown⟩, And.left⟩
        · rename_i hidden
          rw [Bool.and_eq_true, List.any_eq_true] at hidden
          exact ⟨.inr, fun h => h.elim (fun one => absurd one.2 hidden) id⟩
      rw [split, ih later]
      constructor
      · rintro (⟨rfl, offered, shown⟩ | ⟨published, ⟨other, mem, same⟩, shown⟩)
        · exact ⟨stored, ⟨ref, List.mem_cons_self, key⟩, offered, agent ▸ shown⟩
        · exact ⟨published, ⟨other, List.mem_cons_of_mem _ mem, same⟩, shown⟩
      · rintro ⟨published, ⟨other, mem, same⟩, shown⟩
        rcases List.mem_cons.mp mem with rfl | later'
        · have here : item = first := by
            have one := published.1
            rw [same, ← key, stored.1] at one
            exact (Option.some.inj one).symm
          subst here
          exact .inl ⟨rfl, shown.1, agent ▸ shown.2⟩
        · exact .inr ⟨published, ⟨other, later', same⟩, shown⟩

/-- A query finds the discoverable definitions that it asks for. -/
theorem mem_queryRegistry {items : List AgentDefinitionVersion}
    (h : queryRegistry s at' workspaceId snapshot query = .ok items) :
    item ∈ items ↔ Discoverable s at' workspaceId snapshot query item := by
  unfold queryRegistry at h
  obtain ⟨_, -, h⟩ := except_bind_ok h
  split at h
  · cases h
  · obtain ⟨found, listed, h⟩ := except_bind_ok h
    cases h
    rw [List.mem_insertionSort, mem_discovered listed]
    constructor
    · rintro ⟨published, refs, offered, shown⟩
      exact ⟨published, refs, offered, shown⟩
    · rintro ⟨published, refs, offered, shown⟩
      exact ⟨published, refs, offered, shown⟩

theorem discovered_answers {graph : OrganizationGraphVersion}
    {members members' : List DepartmentMembership} (query' : RegistryQuery)
    {refs : List RegisteredAgent} {found : List AgentDefinitionVersion}
    (h : discovered s workspaceId graph members query refs = .ok found) :
    ∃ found', discovered s workspaceId graph members' query' refs = .ok found' := by
  induction refs generalizing found with
  | nil => exact ⟨[], rfl⟩
  | cons ref rest ih =>
      obtain ⟨first, asked, h⟩ := except_bind_ok h
      obtain ⟨others, later, h⟩ := except_bind_ok h
      obtain ⟨found', ok⟩ := ih later
      unfold discovered
      rw [asked, ok]
      exact ⟨_, rfl⟩

/-- The query without a filter asks for nothing that a graph has not. -/
theorem all_unknown (graph : OrganizationGraphVersion) :
    RegistryQuery.all.unknown graph = false :=
  rfl

/-- A query that has answered looked at nothing that the query without a filter, at any
instant, may not look at. -/
theorem queryRegistry_all {items : List AgentDefinitionVersion}
    (h : queryRegistry s at' workspaceId snapshot query = .ok items) (then' : Instant) :
    validateSnapshot s workspaceId snapshot = .ok () ∧
      ∃ all, queryRegistry s then' workspaceId snapshot .all = .ok all := by
  unfold queryRegistry at h
  obtain ⟨_, valid, h⟩ := except_bind_ok h
  refine ⟨valid, ?_⟩
  split at h
  · cases h
  · obtain ⟨found, listed, -⟩ := except_bind_ok h
    obtain ⟨found', ok⟩ := discovered_answers .all listed
    refine ⟨found'.insertionSort definitionLe, ?_⟩
    unfold queryRegistry
    rw [valid, all_unknown]
    exact (congrArg (· >>= fun found => .ok (found.insertionSort definitionLe)) ok).trans rfl

/-- A query that has answered read the clock once. -/
theorem queryReadings_of_ok {items : List AgentDefinitionVersion}
    (h : queryRegistry s at' workspaceId snapshot query = .ok items) :
    queryReadings s workspaceId snapshot query = 1 := by
  unfold queryRegistry at h
  obtain ⟨_, valid, h⟩ := except_bind_ok h
  unfold queryReadings
  rw [valid]
  split at h
  · cases h
  · rename_i known
    exact if_neg known

/-- The answer of a query depends on the members at the instant alone. -/
theorem queryRegistry_congr (same : snapshot.members at' = snapshot.members then') :
    queryRegistry s at' workspaceId snapshot query =
      queryRegistry s then' workspaceId snapshot query := by
  unfold queryRegistry
  rw [same]

/-- Once the query without a filter has answered, a route fails by a violation only. -/
theorem requireRegistryRoute_eq {source : RouteSource} {target : AgentDefinitionVersion}
    {kind : RouteKind} {all : List AgentDefinitionVersion}
    (ok : queryRegistry s at' workspaceId snapshot .all = .ok all) :
    requireRegistryRoute s at' then' workspaceId snapshot source target kind =
      if all.contains target = false ∨ source.among all = false then
        .error (violation "organization_participant_unavailable")
      else if routeAllowed snapshot.graph (source.departments (snapshot.members then'))
          (departmentsOf (snapshot.members then') target.definition.id) kind = false then
        .error (violation "organization_route_denied")
      else .ok () := by
  unfold requireRegistryRoute
  rw [(queryRegistry_all ok at').1, ok]
  rfl

theorem isViolation_requireRegistryRoute {source : RouteSource} {target : AgentDefinitionVersion}
    {kind : RouteKind} {all : List AgentDefinitionVersion} {e : Exc}
    (ok : queryRegistry s at' workspaceId snapshot .all = .ok all)
    (h : requireRegistryRoute s at' then' workspaceId snapshot source target kind = .error e) :
    isViolation e = true := by
  rw [requireRegistryRoute_eq ok] at h
  split at h
  · cases h
    rfl
  · split at h
    · cases h
      rfl
    · cases h

/-- A route is open between participants that are reachable, and only between them. -/
theorem requireRegistryRoute_iff {source : RouteSource} {target : AgentDefinitionVersion}
    {kind : RouteKind} {all : List AgentDefinitionVersion}
    (ok : queryRegistry s at' workspaceId snapshot .all = .ok all) :
    requireRegistryRoute s at' then' workspaceId snapshot source target kind = .ok () ↔
      Reachable s at' then' workspaceId snapshot source target kind := by
  have targets : all.contains target = true ↔
      Discoverable s at' workspaceId snapshot .all target := by
    rw [List.contains_iff_mem, mem_queryRegistry ok]
  have sources : source.among all = true ↔ ∀ definition, source = .agent definition →
      Discoverable s at' workspaceId snapshot .all definition := by
    cases source with
    | department id => exact ⟨nofun, fun _ => rfl⟩
    | agent definition =>
        rw [show (RouteSource.agent definition).among all = all.contains definition from rfl,
          List.contains_iff_mem, mem_queryRegistry ok]
        constructor
        · rintro shown _ ⟨⟩
          exact shown
        · exact fun shown => shown definition rfl
  rw [requireRegistryRoute_eq ok]
  constructor
  · intro passed
    split at passed
    · cases passed
    · rename_i known
      rw [not_or, Bool.not_eq_false, Bool.not_eq_false] at known
      split at passed
      · cases passed
      · rename_i routed
        rw [Bool.not_eq_false] at routed
        exact ⟨targets.mp known.1, sources.mp known.2, routed⟩
  · rintro ⟨known, known', routed⟩
    rw [targets.mpr known, sources.mpr known', routed]
    exact if_neg nofun

theorem Discoverable.congr (h : Discoverable s at' workspaceId snapshot query item)
    (same : snapshot.members at' = snapshot.members then') :
    Discoverable s then' workspaceId snapshot query item :=
  ⟨h.published, h.listed, h.offered, same ▸ h.admitted⟩

theorem Reachable.congr {source : RouteSource} {kind : RouteKind} {here there : Instant}
    (h : Reachable s at' then' workspaceId snapshot source item kind)
    (asked : snapshot.members at' = snapshot.members here)
    (routed : snapshot.members then' = snapshot.members there) :
    Reachable s here there workspaceId snapshot source item kind :=
  ⟨h.known.congr asked, fun definition same => (h.participant definition same).congr asked,
    routed ▸ h.routed⟩

end Answers

end AgentCompanyOS.Orchestration
