import AgentCompanyOS.Orchestration.Store

/-!
# Choosing an agent for a task

`candidates` and `select_agent` of `OrchestrationService` with the selector they use.
Selection only reads: it answers with a stored definition whose grants cover what the
task requires. The organization registry is a port; it answers from the stored records
and from what the clock shows when it reads it.
-/

set_option autoImplicit false

namespace AgentCompanyOS.Orchestration

open Foundation Foundation.Txn Domain AgentCompanyOS.Runtime

/-! ## The registry port -/

/-- `RegistryQuery`. -/
structure RegistryQuery where
  departmentId : Option DepartmentId
  roleId : Option OrgRoleId
  capabilityIds : List CapabilityId

/-- Where a route starts. -/
inductive RouteSource where
  | agent (definition : AgentDefinitionVersion)
  | department (id : DepartmentId)

/-- An answer of the registry, with the number of times it has read the clock. -/
abbrev RegistryReply (α : Type) := Except Exc α × Nat

/-- `AgentRegistryPort`. A method has the store and the clock from its first reading on. -/
structure AgentRegistryPort where
  capture : RuntimeStore → (Nat → Instant) → WorkspaceId → RegistryReply OrganizationSnapshot
  query : RuntimeStore → (Nat → Instant) → WorkspaceId → OrganizationSnapshot → RegistryQuery →
    RegistryReply (List AgentDefinitionVersion)
  requireRoute : RuntimeStore → (Nat → Instant) → WorkspaceId → OrganizationSnapshot →
    RouteSource → AgentDefinitionVersion → RouteKind → RegistryReply Unit

/-- What `OrchestrationService` is built with besides its store, clock and ids. -/
structure OrchestrationHost where
  strategyId : PyStr
  strategyVersion : PyStr
  registry : Option AgentRegistryPort
  runtime : Host

/-- Ask the registry. -/
def askRegistry {α : Type} (env : Env) (ask : RuntimeStore → (Nat → Instant) → RegistryReply α) :
    OrchestrationTxn α := fun w =>
  let reply := ask w.store.runtime fun i => env.clock (w.reads + i)
  Txn.ofExcept reply.1 { w with reads := w.reads + reply.2 }

/-- The snapshot that a run is pinned to. -/
def captureOrganization (env : Env) (host : OrchestrationHost) (workspaceId : WorkspaceId) :
    OrchestrationTxn (Option OrganizationSnapshot) :=
  match host.registry with
  | none => pure none
  | some registry => do
      let snapshot ← askRegistry env fun store clock => registry.capture store clock workspaceId
      pure (some snapshot)

/-- `require_organization_route`. -/
def requireOrganizationRoute (env : Env) (host : OrchestrationHost) (run : OrchestrationRun)
    (source target : AgentDefinitionVersion) (kind : RouteKind) : OrchestrationTxn Unit :=
  match run.organization, host.registry with
  | none, _ => pure ()
  | some _, none => raise (violation "organization_registry_required")
  | some snapshot, some registry =>
      askRegistry env fun store clock =>
        registry.requireRoute store clock run.workspaceId snapshot (.agent source) target kind

/-! ## Candidates -/

/-- `definitions` of the runtime store. -/
def listDefinitions (workspaceId : WorkspaceId) : RuntimeTxn (List AgentDefinitionVersion) := do
  let _ ← inDomain (getWorkspace workspaceId)
  let store ← getStore
  pure (store.definitions.values.filter (·.definition.workspaceId = workspaceId))

/-- The newest version of each definition. -/
def latestDefinitions (definitions : List AgentDefinitionVersion) :
    Registry (fun d : AgentDefinitionVersion => d.definition.id) :=
  definitions.foldl
    (fun latest definition =>
      match latest.get? definition.definition.id with
      | none => latest.put definition
      | some current =>
          if current.version.value < definition.version.value then latest.put definition
          else latest)
    .empty

/-- The allowlists of a policy. -/
def OrchestrationPolicy.allows (policy : OrchestrationPolicy) (item : AgentDefinitionVersion) :
    Bool :=
  (policy.allowedAgentIds = [] || item.definition.id ∈ policy.allowedAgentIds) &&
  (policy.allowedRoles = [] || item.role.val ∈ policy.allowedRoles)

/-- `definitions_for_policy`. -/
def definitionsForPolicy (workspaceId : WorkspaceId) (policy : OrchestrationPolicy) :
    OrchestrationTxn (List AgentDefinitionVersion) := do
  let definitions ← inRuntime (listDefinitions workspaceId)
  let allowed := (latestDefinitions definitions).values.filter fun item =>
    item.enabled && policy.allows item
  pure (allowed.insertionSort fun a b => a.definition.id.value ≤ b.definition.id.value)

/-- `_catalog`. -/
def catalog (definitions : List AgentDefinitionVersion) : List AgentCatalogItem :=
  definitions.map fun item =>
    { definitionId := item.definition.id
      version := item.version
      workspaceId := item.definition.workspaceId
      role := item.role
      capabilities := item.capabilities
      toolIds := item.allowedTools.map fun grant => grant.toolId
      knowledgeSourceIds := item.knowledgeSources
      memoryScopes := item.memoryScopes
      autonomyCeiling := item.autonomyCeiling
      capabilityIds := item.capabilityIds }

/-- `candidates`. -/
def candidates (env : Env) (host : OrchestrationHost) (run : OrchestrationRun)
    (requirements : AgentRequirements) : OrchestrationTxn (List AgentDefinitionVersion) :=
  match run.organization, host.registry with
  | none, _ => do
      raiseIf (requirements.capabilityIds ≠ [] ∨ requirements.requiredDepartment ≠ none ∨
          requirements.preferredDepartment ≠ none ∨ requirements.organizationalRole ≠ none ∨
          run.sourceDepartment ≠ none)
        (violation "organization_required")
      definitionsForPolicy run.workspaceId run.policy
  | some _, none => raise (violation "organization_registry_required")
  | some snapshot, some registry => do
      let found ← askRegistry env fun store clock =>
        registry.query store clock run.workspaceId snapshot
          ⟨requirements.requiredDepartment, requirements.organizationalRole,
            requirements.capabilityIds⟩
      pure (found.filter run.policy.allows)

/-! ## The selector -/

/-- Whether the grants of a definition cover the requirements. -/
def covers (workspaceId : WorkspaceId) (requirements : AgentRequirements)
    (excluded : List AgentDefinitionVersion) (item : AgentDefinitionVersion) : Bool :=
  item.definition.workspaceId = workspaceId && item.enabled &&
  !((excluded.map AgentDefinitionVersion.key).contains item.key) &&
  subset requirements.capabilities item.capabilities &&
  subset requirements.capabilityIds item.capabilityIds &&
  subset requirements.toolIds (item.allowedTools.map fun grant => grant.toolId) &&
  subset requirements.knowledgeSourceIds item.knowledgeSources &&
  subset requirements.memoryScopes item.memoryScopes &&
  requirements.minAutonomy ≤ item.autonomyCeiling

/-- The open runs of a definition version. -/
def activeRuns (store : RuntimeStore) (item : AgentDefinitionVersion) : Nat :=
  (store.runs.values.filter fun run => run.definitionVersion = item ∧
    (run.status = .running ∨ run.status = .waiting)).length

/-- The candidates that cover the requirements and are the stored definitions, each with
its open runs. -/
def rankCandidates (workspaceId : WorkspaceId) (requirements : AgentRequirements)
    (excluded : List AgentDefinitionVersion) :
    List AgentDefinitionVersion → RuntimeTxn (List (Nat × AgentDefinitionVersion))
  | [] => pure []
  | item :: rest =>
      if covers workspaceId requirements excluded item = false then
        rankCandidates workspaceId requirements excluded rest
      else do
        let canonical ← getDefinition workspaceId item.definition.id item.version
        let store ← getStore
        let ranked ← rankCandidates workspaceId requirements excluded rest
        pure (if canonical = item then (activeRuns store item, item) :: ranked else ranked)

/-- The order of the candidates: open runs, then the id, then the newest version. -/
def ranksBefore (a b : Nat × AgentDefinitionVersion) : Prop :=
  a.1 < b.1 ∨ a.1 = b.1 ∧ (a.2.definition.id.value < b.2.definition.id.value ∨
    a.2.definition.id.value = b.2.definition.id.value ∧ b.2.version.value ≤ a.2.version.value)

instance : DecidableRel ranksBefore := fun _ _ => inferInstanceAs (Decidable (_ ∨ _))

/-- `DeterministicAgentSelector.select`. -/
def select (workspaceId : WorkspaceId) (requirements : AgentRequirements)
    (candidates excluded : List AgentDefinitionVersion) : RuntimeTxn AgentDefinitionVersion := do
  let ranked ← rankCandidates workspaceId requirements excluded candidates
  let best ← need (ranked.insertionSort ranksBefore).head? (violation "no_eligible_agent")
  pure best.2

/-! ## Selecting with routes -/

/-- Whether an exception is an `InvariantViolation`. -/
def isViolation : Exc → Bool
  | .domain (.invariantViolation _ _) => true
  | _ => false

/-- Whether an exception is the violation of a rule. -/
def isViolationOf (rule : String) : Exc → Bool
  | .domain (.invariantViolation r _) => r = rule
  | _ => false

/-- The items that pass a check; a violation drops the item, another exception goes on. -/
def passing {α : Type} (check : α → OrchestrationTxn Unit) : List α → OrchestrationTxn (List α)
  | [] => pure []
  | item :: rest => do
      let passed ← catching (do check item; pure true) fun e =>
        if isViolation e = true then pure false else raise e
      let others ← passing check rest
      pure (if passed = true then item :: others else others)

/-- The candidates that may be reached from the department the run was started for. -/
def routedFromDepartment (env : Env) (host : OrchestrationHost) (run : OrchestrationRun)
    (eligible : List AgentDefinitionVersion) : OrchestrationTxn (List AgentDefinitionVersion) :=
  match run.sourceDepartment, run.organization, host.registry with
  | some department, some snapshot, some registry =>
      passing (fun target => askRegistry env fun store clock =>
        registry.requireRoute store clock run.workspaceId snapshot (.department department) target
          .delegate) eligible
  | _, _, _ => pure eligible

/-- The routes from every source to a candidate. -/
def requireRoutes (env : Env) (host : OrchestrationHost) (run : OrchestrationRun)
    (kind : RouteKind) (target : AgentDefinitionVersion) :
    List AgentDefinitionVersion → OrchestrationTxn Unit
  | [] => pure ()
  | source :: rest => do
      requireOrganizationRoute env host run source target kind
      runIf (kind = .handoff) (requireOrganizationRoute env host run source target .delegate)
      requireRoutes env host run kind target rest

/-- The candidates that may be reached from every source. -/
def routedFromSources (env : Env) (host : OrchestrationHost) (run : OrchestrationRun)
    (sources : List AgentDefinitionVersion) (kind : RouteKind)
    (eligible : List AgentDefinitionVersion) : OrchestrationTxn (List AgentDefinitionVersion) :=
  if sources ≠ [] ∧ run.organization ≠ none then
    passing (fun target => requireRoutes env host run kind target sources) eligible
  else pure eligible

/-- The choice among the eligible agents, those of the preferred department first. -/
def selectPreferred (env : Env) (host : OrchestrationHost) (run : OrchestrationRun)
    (requirements : AgentRequirements) (eligible excluded : List AgentDefinitionVersion) :
    OrchestrationTxn AgentDefinitionVersion :=
  let any := inRuntime (select run.workspaceId requirements eligible excluded)
  match requirements.preferredDepartment, run.organization, host.registry with
  | some department, some snapshot, some registry => do
      let preferred ← askRegistry env fun store clock =>
        registry.query store clock run.workspaceId snapshot ⟨some department, none, []⟩
      catching
        (inRuntime (select run.workspaceId requirements (eligible.filter (· ∈ preferred)) excluded))
        fun e => if isViolationOf "no_eligible_agent" e = true then any else raise e
  | _, _, _ => any

/-- The candidates a caller names, as far as the run admits them. -/
def admitted (run : OrchestrationRun) (eligible : List AgentDefinitionVersion) :
    Option (List AgentDefinitionVersion) → List AgentDefinitionVersion
  | none => eligible
  | some named => named.filter fun a =>
      (run.organization = none || a ∈ eligible) && run.policy.allows a

/-- `select_agent`. -/
def selectAgent (env : Env) (host : OrchestrationHost) (run : OrchestrationRun)
    (requirements : AgentRequirements) (named : Option (List AgentDefinitionVersion))
    (excluded sources : List AgentDefinitionVersion) (kind : RouteKind) :
    OrchestrationTxn AgentDefinitionVersion := do
  let found ← candidates env host run requirements
  let routed ← routedFromDepartment env host run (admitted run found named)
  let eligible ← routedFromSources env host run sources kind routed
  selectPreferred env host run requirements eligible excluded

/-! ## Selection leaves the store alone -/

section Idle

variable (env : Env) (host : OrchestrationHost) (run : OrchestrationRun)

theorem idle_askRegistry {α : Type} (ask : RuntimeStore → (Nat → Instant) → RegistryReply α) :
    Idle (askRegistry env ask) := by
  intro w
  let reply := ask w.store.runtime fun i => env.clock (w.reads + i)
  let next : World OrchestrationStore := { w with reads := w.reads + reply.2 }
  have later : w.Later next := ⟨Nat.le_refl _, Nat.le_add_right _ _⟩
  have kept : World.after (askRegistry env ask w) = next := Reads.ofExcept reply.1 next
  rw [kept]
  exact ⟨later, rfl⟩

theorem idle_captureOrganization (workspaceId : WorkspaceId) :
    Idle (captureOrganization env host workspaceId) := by
  unfold captureOrganization
  split
  · exact Moves.pure _
  · exact (idle_askRegistry env _).bind fun _ => Moves.pure _

theorem idle_requireOrganizationRoute (source target : AgentDefinitionVersion) (kind : RouteKind) :
    Idle (requireOrganizationRoute env host run source target kind) := by
  unfold requireOrganizationRoute
  split
  · exact Moves.pure _
  · exact Moves.raise _
  · exact idle_askRegistry env _

theorem reads_listDefinitions (workspaceId : WorkspaceId) : Reads (listDefinitions workspaceId) :=
  (reads_getWorkspace _).bind fun _ => Reads.getStore.bind fun _ => Reads.pure _

theorem reads_definitionsForPolicy (workspaceId : WorkspaceId) (policy : OrchestrationPolicy) :
    Reads (definitionsForPolicy workspaceId policy) :=
  (reads_inRuntime (reads_listDefinitions _)).bind fun _ => Reads.pure _

theorem idle_candidates (requirements : AgentRequirements) :
    Idle (candidates env host run requirements) := by
  unfold candidates
  split
  · exact (Moves.raiseIf _ _).bind fun _ => (reads_definitionsForPolicy _ _).moves
  · exact Moves.raise _
  · exact (idle_askRegistry env _).bind fun _ => Moves.pure _

theorem reads_rankCandidates (workspaceId : WorkspaceId) (requirements : AgentRequirements)
    (excluded items : List AgentDefinitionVersion) :
    Reads (rankCandidates workspaceId requirements excluded items) := by
  induction items with
  | nil => exact Reads.pure _
  | cons item rest ih =>
      unfold rankCandidates
      split
      · exact ih
      · exact (reads_getDefinition _ _ _).bind fun _ => Reads.getStore.bind fun _ =>
          ih.bind fun _ => Reads.pure _

theorem reads_select (workspaceId : WorkspaceId) (requirements : AgentRequirements)
    (items excluded : List AgentDefinitionVersion) :
    Reads (select workspaceId requirements items excluded) :=
  (reads_rankCandidates _ _ _ _).bind fun _ => (Reads.need _ _).bind fun _ => Reads.pure _

theorem idle_passing {α : Type} {check : α → OrchestrationTxn Unit} (h : ∀ a, Idle (check a))
    (items : List α) : Idle (passing check items) := by
  induction items with
  | nil => exact Moves.pure _
  | cons item rest ih =>
      have one : Idle (catching (do check item; pure true) fun e =>
          if isViolation e = true then pure false else raise e) := by
        refine Moves.catching ((h item).bind fun _ => Moves.pure _) fun e => ?_
        split
        · exact Moves.pure _
        · exact Moves.raise _
      exact one.bind fun _ => ih.bind fun _ => Moves.pure _

theorem idle_routedFromDepartment (eligible : List AgentDefinitionVersion) :
    Idle (routedFromDepartment env host run eligible) := by
  unfold routedFromDepartment
  split
  · exact idle_passing (fun _ => idle_askRegistry env _) _
  · exact Moves.pure _

theorem idle_requireRoutes (kind : RouteKind) (target : AgentDefinitionVersion)
    (sources : List AgentDefinitionVersion) :
    Idle (requireRoutes env host run kind target sources) := by
  induction sources with
  | nil => exact Moves.pure _
  | cons source rest ih =>
      exact (idle_requireOrganizationRoute env host run _ _ _).bind fun _ =>
        (Moves.runIf fun _ => idle_requireOrganizationRoute env host run _ _ _).bind fun _ => ih

theorem idle_routedFromSources (sources : List AgentDefinitionVersion) (kind : RouteKind)
    (eligible : List AgentDefinitionVersion) :
    Idle (routedFromSources env host run sources kind eligible) := by
  unfold routedFromSources
  split
  · exact idle_passing (fun _ => idle_requireRoutes env host run _ _ _) _
  · exact Moves.pure _

theorem idle_selectPreferred (requirements : AgentRequirements)
    (eligible excluded : List AgentDefinitionVersion) :
    Idle (selectPreferred env host run requirements eligible excluded) := by
  have any : Idle (inRuntime (select run.workspaceId requirements eligible excluded)) :=
    (reads_inRuntime (reads_select _ _ _ _)).moves
  unfold selectPreferred
  split
  · refine (idle_askRegistry env _).bind fun preferred => Moves.catching ?_ fun e => ?_
    · exact (reads_inRuntime (reads_select _ _ _ _)).moves
    · split
      · exact any
      · exact Moves.raise _
  · exact any

theorem idle_selectAgent (requirements : AgentRequirements)
    (named : Option (List AgentDefinitionVersion)) (excluded sources : List AgentDefinitionVersion)
    (kind : RouteKind) :
    Idle (selectAgent env host run requirements named excluded sources kind) :=
  (idle_candidates env host run requirements).bind fun _ =>
    (idle_routedFromDepartment env host run _).bind fun _ =>
    (idle_routedFromSources env host run _ _ _).bind fun _ =>
    idle_selectPreferred env host run requirements _ _

end Idle

end AgentCompanyOS.Orchestration
