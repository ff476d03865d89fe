import AgentCompanyOS.Foundation.Ascent
import AgentCompanyOS.Runtime.Agent

/-!
# Organization graphs

A published organization: departments, roles and capabilities, the registered agents and
their memberships, who reports to whom, and the routes between departments. A version is
checked as a whole when it is built (`OrganizationGraphVersion.check`). One version of a
workspace's graph is active at a time.
-/

set_option autoImplicit false

namespace AgentCompanyOS.Runtime

open Foundation Domain

abbrev OrganizationGraphId := OpaqueId .organizationGraph
abbrev DepartmentId := OpaqueId .department
abbrev OrgRoleId := OpaqueId .orgRole
abbrev CapabilityId := OpaqueId .capability

structure Department where
  id : DepartmentId
  workspaceId : WorkspaceId
  active : Bool
deriving DecidableEq

structure OrgRole where
  id : OrgRoleId
  workspaceId : WorkspaceId
  isLead : Bool
deriving DecidableEq

structure CapabilityDefinition where
  id : CapabilityId
  workspaceId : WorkspaceId
  active : Bool
deriving DecidableEq

structure DepartmentMembership where
  workspaceId : WorkspaceId
  agentId : AgentDefinitionId
  departmentId : DepartmentId
  roleId : OrgRoleId
  active : Bool
  discoverable : Bool
  effectiveFrom : Option Instant
  effectiveUntil : Option Instant
deriving DecidableEq

/-- `DepartmentMembership.effective`. -/
def DepartmentMembership.effective (m : DepartmentMembership) (at' : Instant) : Bool :=
  m.active && m.effectiveFrom.all (· ≤ at') && m.effectiveUntil.all (at' < ·)

/-- An edge of the reporting graph. -/
structure ReportingRelationship where
  workspaceId : WorkspaceId
  subordinate : AgentDefinitionId
  manager : AgentDefinitionId
deriving DecidableEq

/-- An exact reference to a published agent definition. -/
structure RegisteredAgent where
  workspaceId : WorkspaceId
  agentId : AgentDefinitionId
  version : Version
deriving DecidableEq

inductive RouteKind where
  | delegate | message | handoff
deriving DecidableEq

structure DepartmentRoute where
  source : DepartmentId
  target : DepartmentId
  kind : RouteKind
  allowed : Bool
deriving DecidableEq

/-- `OrganizationPolicy`. -/
structure OrganizationPolicy where
  routes : List DepartmentRoute
deriving DecidableEq

/-- `OrganizationPolicy.allows`: the first rule for the route, and without one the route of
a department to itself. -/
def OrganizationPolicy.allows (policy : OrganizationPolicy) (source target : DepartmentId)
    (kind : RouteKind) : Bool :=
  match policy.routes.find? fun r => r.source = source ∧ r.target = target ∧ r.kind = kind with
  | some rule => rule.allowed
  | none => source = target

/-- `OrganizationBounds`. -/
structure OrganizationBounds where
  departments : Nat := 12
  roles : Nat := 16
  capabilities : Nat := 32
  memberships : Nat := 64
  membershipsPerAgent : Nat := 3
  agentsPerDepartment : Nat := 20
  reportingDepth : Nat := 5
  crossDepartmentRules : Nat := 64
  limits : ∀ b ∈ [(departments, 32), (roles, 64), (capabilities, 128), (memberships, 256),
    (membershipsPerAgent, 8), (agentsPerDepartment, 64), (reportingDepth, 10),
    (crossDepartmentRules, 256)], 1 ≤ b.1 ∧ b.1 ≤ b.2 := by decide
deriving DecidableEq

structure OrganizationGraph where
  id : OrganizationGraphId
  workspaceId : WorkspaceId
  name : Text
  revision : Version
  activeVersion : Option Version
deriving DecidableEq

structure OrganizationGraphVersion where
  graphId : OrganizationGraphId
  workspaceId : WorkspaceId
  version : Version
  departments : List Department
  roles : List OrgRole
  capabilities : List CapabilityDefinition
  agents : List RegisteredAgent
  memberships : List DepartmentMembership
  reporting : List ReportingRelationship
  policy : OrganizationPolicy
  bounds : OrganizationBounds
  schemaVersion : Int
deriving DecidableEq

/-- The key of a stored version. -/
def OrganizationGraphVersion.key (v : OrganizationGraphVersion) : WorkspaceId × Version :=
  (v.workspaceId, v.version)

/-! ## The check of a version -/

/-- `raise InvariantViolation(rule)` when a condition holds. -/
def refuseIf (c : Prop) [Decidable c] (rule : String) : Except DomainError Unit :=
  if c then .error (.invariantViolation rule []) else .ok ()

/-- Check the items of a list in order. -/
def checkEach {α : Type} (check : α → Except DomainError Unit) : List α → Except DomainError Unit
  | [] => .ok ()
  | item :: rest =>
      match check item with
      | .ok () => checkEach check rest
      | .error e => .error e

namespace OrganizationGraphVersion

variable (v : OrganizationGraphVersion)

/-- The sizes of the collections and their bounds. -/
def sizes : List (Nat × Nat) := [
  (v.departments.length, v.bounds.departments), (v.roles.length, v.bounds.roles),
  (v.capabilities.length, v.bounds.capabilities), (v.agents.length, v.bounds.memberships),
  (v.memberships.length, v.bounds.memberships), (v.reporting.length, v.bounds.memberships),
  (v.policy.routes.length, v.bounds.crossDepartmentRules)]

/-- The workspaces of the items, in the order of the collections. -/
def scopes : List WorkspaceId :=
  v.departments.map Department.workspaceId ++ v.roles.map OrgRole.workspaceId ++
    v.capabilities.map CapabilityDefinition.workspaceId ++
    v.agents.map RegisteredAgent.workspaceId ++
    v.memberships.map DepartmentMembership.workspaceId ++
    v.reporting.map ReportingRelationship.workspaceId

def checkScope (workspaceId : WorkspaceId) : Except DomainError Unit :=
  if workspaceId ≠ v.workspaceId then
    .error (.workspaceMismatch (py "OrganizationGraph") v.workspaceId.value workspaceId.value)
  else .ok ()

def checkMembership (m : DepartmentMembership) : Except DomainError Unit :=
  refuseIf (m.departmentId ∉ v.departments.map Department.id ∨
    m.roleId ∉ v.roles.map OrgRole.id ∨ m.agentId ∉ v.agents.map RegisteredAgent.agentId)
    "unknown_membership_reference"

def checkAgent (agent : AgentDefinitionId) : Except DomainError Unit :=
  refuseIf (v.bounds.membershipsPerAgent < (v.memberships.filter (·.agentId = agent)).length)
    "memberships_per_agent_bound"

def checkDepartment (department : DepartmentId) : Except DomainError Unit := do
  let members := v.memberships.filter (·.departmentId = department)
  refuseIf (v.bounds.agentsPerDepartment <
    (members.map DepartmentMembership.agentId).dedup.length) "agents_per_department_bound"
  -- At most one active lead, even if future effective windows do not overlap.
  refuseIf (1 < (members.filter fun m =>
    m.active && v.roles.any fun r => r.id = m.roleId && r.isLead).length) "department_lead_unique"

/-- The dictionary of the managers, edge by edge. -/
def managers (agents : List AgentDefinitionId) :
    List ReportingRelationship → List (AgentDefinitionId × AgentDefinitionId) →
      Except DomainError (List (AgentDefinitionId × AgentDefinitionId))
  | [], parents => .ok parents
  | edge :: rest, parents => do
      refuseIf (edge.subordinate ∉ agents ∨ edge.manager ∉ agents ∨
        edge.subordinate = edge.manager) "invalid_reporting_edge"
      refuseIf (edge.subordinate ∈ parents.map Prod.fst) "one_reporting_manager"
      managers agents rest (parents ++ [(edge.subordinate, edge.manager)])

/-- The walk from one agent up its managers. -/
def checkClimb (parents : List (AgentDefinitionId × AgentDefinitionId)) (depth : Nat)
    (start : AgentDefinitionId) : Except DomainError Unit :=
  match climb (parents.lookup ·) depth [] start with
  | .top => .ok ()
  | .cycle => .error (.invariantViolation "reporting_cycle" [])
  | .deep => .error (.invariantViolation "reporting_depth_bound" [])

/-- The part of the check that is about the reporting graph. -/
def checkReporting (agents : List AgentDefinitionId) (depth : Nat)
    (reporting : List ReportingRelationship) : Except DomainError Unit := do
  let parents ← managers agents reporting []
  checkEach (checkClimb parents depth) (parents.map Prod.fst)

/-- `OrganizationGraphVersion.__post_init__`. -/
def check : Except DomainError Unit := do
  refuseIf (v.schemaVersion ≠ 1 ∨ ∃ size ∈ v.sizes, size.2 < size.1)
    "organization_graph_bound_or_schema"
  checkEach v.checkScope v.scopes
  let agents := v.agents.map RegisteredAgent.agentId
  let departments := v.departments.map Department.id
  refuseIf (¬departments.Nodup ∨ ¬(v.roles.map OrgRole.id).Nodup ∨
    ¬(v.capabilities.map CapabilityDefinition.id).Nodup ∨ ¬agents.Nodup) "organization_unique_ids"
  refuseIf (¬(v.memberships.map fun m => (m.agentId, m.departmentId, m.roleId)).Nodup)
    "duplicate_membership"
  checkEach v.checkMembership v.memberships
  checkEach v.checkAgent agents
  checkEach v.checkDepartment departments
  checkReporting agents v.bounds.reportingDepth v.reporting
  refuseIf (¬(v.policy.routes.map fun r => (r.source, r.target, r.kind)).Nodup ∨
    ∃ r ∈ v.policy.routes, r.source ∉ departments ∨ r.target ∉ departments)
    "invalid_department_route"

end OrganizationGraphVersion

/-! ## Snapshots -/

/-- A captured active version. -/
structure OrganizationSnapshot where
  graph : OrganizationGraphVersion
  capturedAt : Instant
deriving DecidableEq

/-- The departments that are active. -/
def OrganizationGraphVersion.activeDepartments (v : OrganizationGraphVersion) :
    List DepartmentId :=
  (v.departments.filter Department.active).map Department.id

/-- The memberships that count at an instant (`AgentRegistry._members`). -/
def OrganizationSnapshot.members (snapshot : OrganizationSnapshot) (at' : Instant) :
    List DepartmentMembership :=
  snapshot.graph.memberships.filter fun m =>
    (m.departmentId ∈ snapshot.graph.activeDepartments : Bool) && m.effective at'

end AgentCompanyOS.Runtime
