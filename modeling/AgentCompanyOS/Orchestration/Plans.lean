import Mathlib.Algebra.GroupWithZero.Nat
import AgentCompanyOS.Runtime.Organization

/-!
# Plans and their validation

A planning strategy answers a request with a proposal, which is untrusted data. A
policy bounds what a proposal may ask for, and `validatePlan` checks a proposal
against the request that it answers. Requirements and policies are built by the host;
a planned task carries the bounds of its constructor.
-/

set_option autoImplicit false

namespace AgentCompanyOS.Orchestration

open Foundation Domain AgentCompanyOS.Runtime

abbrev OrchestrationRunId := OpaqueId .orchestrationRun
abbrev OrchestrationPlanId := OpaqueId .orchestrationPlan
abbrev DelegationId := OpaqueId .delegation

/-! ## Policies and requirements -/

/-- The bounds of an orchestration. -/
structure PolicyFields where
  maxTasks : Nat
  maxDependenciesPerTask : Nat
  maxDependencyDepth : Nat
  maxPlanText : Nat
  maxReplans : Nat
  maxIterations : Nat
  maxParallelWidth : Nat
  maxAgentRuns : Nat
  maxFailedAttempts : Nat
  maxRetriesPerTask : Nat
  maxRedelegationsPerTask : Nat
  plannerSeconds : Nat
  allowedAgentIds : List AgentDefinitionId
  allowedRoles : List PyStr
  version : PyStr
deriving DecidableEq

/-- The bounds with their maxima. -/
def PolicyFields.bounds (p : PolicyFields) : List (Nat × Nat) :=
  [(p.maxTasks, 20), (p.maxDependenciesPerTask, 10), (p.maxDependencyDepth, 10),
    (p.maxPlanText, 16000), (p.maxReplans, 5), (p.maxIterations, 100), (p.maxParallelWidth, 10),
    (p.maxAgentRuns, 50), (p.maxFailedAttempts, 20), (p.maxRetriesPerTask, 5),
    (p.maxRedelegationsPerTask, 5), (p.plannerSeconds, 30)]

/-- A policy that `__post_init__` accepts. -/
structure OrchestrationPolicy extends PolicyFields where
  bounded : ∀ b ∈ toPolicyFields.bounds, 1 ≤ b.1 ∧ b.1 ≤ b.2
  agentsUnique : toPolicyFields.allowedAgentIds.Nodup
deriving DecidableEq

/-- `OrchestrationPolicy()`. -/
def OrchestrationPolicy.default : OrchestrationPolicy where
  maxTasks := 8
  maxDependenciesPerTask := 3
  maxDependencyDepth := 5
  maxPlanText := 4000
  maxReplans := 2
  maxIterations := 20
  maxParallelWidth := 3
  maxAgentRuns := 12
  maxFailedAttempts := 3
  maxRetriesPerTask := 1
  maxRedelegationsPerTask := 1
  plannerSeconds := 5
  allowedAgentIds := []
  allowedRoles := []
  version := py "bounded-orchestration-v1"
  bounded := by decide
  agentsUnique := List.nodup_nil

/-- What a planned task asks of its agent. -/
structure AgentRequirements where
  capabilities : List PyStr
  toolIds : List ToolId
  knowledgeSourceIds : List KnowledgeSourceId
  memoryScopes : List MemoryScope
  minAutonomy : Nat
  capabilityIds : List CapabilityId
  requiredDepartment : Option DepartmentId
  preferredDepartment : Option DepartmentId
  organizationalRole : Option OrgRoleId
deriving DecidableEq

/-- `AgentRequirements()`. -/
def AgentRequirements.none : AgentRequirements := ⟨[], [], [], [], 0, [], .none, .none, .none⟩

/-! ## Proposals and requests -/

structure PlannedTaskFields where
  id : PyStr
  title : PyStr
  acceptanceCriteria : List PyStr
  dependencies : List PyStr
  requirements : AgentRequirements
  priority : Nat
  required : Bool
deriving DecidableEq

/-- `PlannedTask.__post_init__`. -/
structure PlannedTaskFields.Valid (t : PlannedTaskFields) : Prop where
  id : strip t.id ≠ [] ∧ t.id.length ≤ 64
  title : strip t.title ≠ [] ∧ t.title.length ≤ 200
  criteria : t.acceptanceCriteria ≠ [] ∧ t.acceptanceCriteria.length ≤ 5 ∧
    ∀ item ∈ t.acceptanceCriteria, item ≠ [] ∧ item.length ≤ 500
  dependencies : t.dependencies.Nodup
  priority : t.priority ≤ 100

/-- A task of a proposal. -/
structure PlannedTask extends PlannedTaskFields where
  valid : toPlannedTaskFields.Valid
deriving DecidableEq

structure PlanProposal where
  workspaceId : WorkspaceId
  goalId : GoalId
  tasks : List PlannedTask
deriving DecidableEq

/-- What the planner is shown of an agent. -/
structure AgentCatalogItem where
  definitionId : AgentDefinitionId
  version : Version
  workspaceId : WorkspaceId
  role : Text
  capabilities : List PyStr
  toolIds : List ToolId
  knowledgeSourceIds : List KnowledgeSourceId
  memoryScopes : List MemoryScope
  autonomyCeiling : Nat
  capabilityIds : List CapabilityId
deriving DecidableEq

structure OrchestrationRequest where
  workspaceId : WorkspaceId
  goalId : GoalId
  goalVersion : Version
  objective : Text
  constraints : List Text
  agents : List AgentCatalogItem
  policy : OrchestrationPolicy
deriving DecidableEq

/-! ## Validation -/

/-- `set(xs) <= set(ys)`. -/
def subset {α : Type} [DecidableEq α] (xs ys : List α) : Bool := xs.all (· ∈ ys)

theorem subset_eq_true {α : Type} [DecidableEq α] {xs ys : List α} :
    subset xs ys = true ↔ ∀ x ∈ xs, x ∈ ys := by
  simp [subset]

/-- `_eligible`. -/
def eligible (requirements : AgentRequirements) (agent : AgentCatalogItem) : Bool :=
  subset requirements.capabilities agent.capabilities &&
  subset requirements.capabilityIds agent.capabilityIds &&
  subset requirements.toolIds agent.toolIds &&
  subset requirements.knowledgeSourceIds agent.knowledgeSourceIds &&
  subset requirements.memoryScopes agent.memoryScopes &&
  requirements.minAutonomy ≤ agent.autonomyCeiling

/-- Raise the violation of a rule when a condition holds. -/
def rejectIf (c : Prop) [Decidable c] (rule : String) : Except DomainError Unit :=
  if c then .error (.invariantViolation rule []) else .ok ()

theorem rejectIf_eq_ok {c : Prop} [Decidable c] {rule : String} {u : Unit} :
    rejectIf c rule = .ok u ↔ ¬c := by
  unfold rejectIf
  split
  · next holds => simp [holds]
  · next fails => simp [fails]

/-- The checks of one planned task. -/
def validatePlanned (request : OrchestrationRequest) (known : List PyStr) (task : PlannedTask) :
    Except DomainError Unit := do
  rejectIf (request.policy.maxDependenciesPerTask < task.dependencies.length)
    "plan_dependency_count"
  rejectIf (subset task.dependencies known = false ∨ task.id ∈ task.dependencies)
    "plan_unknown_or_self_dependency"
  rejectIf (request.agents.any (eligible task.requirements) = false)
    "plan_no_eligible_agent_requirement"

/-- The checks of the planned tasks, in order. -/
def validateTasks (request : OrchestrationRequest) (known : List PyStr) :
    List PlannedTask → Except DomainError Unit
  | [] => .ok ()
  | task :: rest => do
      validatePlanned request known task
      validateTasks request known rest

/-- The characters of a task that count against the text bound. -/
def PlannedTask.textSize (task : PlannedTask) : Nat :=
  task.id.length + task.title.length + (task.acceptanceCriteria.map List.length).sum

/-- The dependencies that a plan gives a task. -/
def dependenciesOf (tasks : List PlannedTask) (id : PyStr) : List PyStr :=
  ((tasks.find? (·.id = id)).map fun task => task.dependencies).getD []

/-- `visit`: the depth of a task, with the depths that are known afterwards. The path to
the task has no repeated task, so its length is below the number of tasks and the first
argument, which bounds the length of the path, is never used up. -/
def visit (graph : PyStr → List PyStr) (maxDepth : Nat) :
    Nat → List PyStr → List (PyStr × Nat) → PyStr → Except DomainError (Nat × List (PyStr × Nat))
  | 0, _, _, _ => .error (.invariantViolation "plan_cycle" [])
  | fuel + 1, visiting, depths, node =>
      if node ∈ visiting then .error (.invariantViolation "plan_cycle" [])
      else
        match depths.lookup node with
        | some depth => .ok (depth, depths)
        | none => do
            let (best, depths) ← (graph node).foldlM
              (fun (best, depths) parent => do
                let (depth, depths) ← visit graph maxDepth fuel (node :: visiting) depths parent
                .ok (max best depth, depths))
              (0, depths)
            rejectIf (maxDepth < 1 + best) "plan_dependency_depth"
            .ok (1 + best, (node, 1 + best) :: depths)

/-- The search from every task. -/
def visitAll (graph : PyStr → List PyStr) (maxDepth fuel : Nat) :
    List PyStr → List (PyStr × Nat) → Except DomainError Unit
  | [], _ => .ok ()
  | id :: rest, depths => do
      let (_, depths) ← visit graph maxDepth fuel [] depths id
      visitAll graph maxDepth fuel rest depths

/-- `validate_plan`. -/
def validatePlan (request : OrchestrationRequest) (proposal : PlanProposal) :
    Except DomainError Unit := do
  let policy := request.policy
  let ids := proposal.tasks.map fun task => task.id
  rejectIf (proposal.workspaceId ≠ request.workspaceId ∨ proposal.goalId ≠ request.goalId)
    "plan_workspace_or_goal"
  rejectIf (proposal.tasks = [] ∨ policy.maxTasks < proposal.tasks.length) "plan_task_count"
  rejectIf (¬ids.Nodup) "plan_duplicate_task_id"
  validateTasks request ids proposal.tasks
  rejectIf (policy.maxPlanText < (proposal.tasks.map PlannedTask.textSize).sum) "plan_text_limit"
  visitAll (dependenciesOf proposal.tasks) policy.maxDependencyDepth (ids.length + 1) ids []

/-- An accepted proposal answers its request, has tasks, and no two of them share an id. -/
theorem validatePlan_eq_ok {request : OrchestrationRequest} {proposal : PlanProposal} {u : Unit}
    (h : validatePlan request proposal = .ok u) :
    proposal.workspaceId = request.workspaceId ∧ proposal.goalId = request.goalId ∧
      proposal.tasks ≠ [] ∧ (proposal.tasks.map fun task => task.id).Nodup := by
  obtain ⟨_, answers, h⟩ := except_bind_ok h
  obtain ⟨_, counted, h⟩ := except_bind_ok h
  obtain ⟨_, unique, -⟩ := except_bind_ok h
  have answers := rejectIf_eq_ok.mp answers
  have counted := rejectIf_eq_ok.mp counted
  have unique := rejectIf_eq_ok.mp unique
  simp only [not_or, not_not] at answers counted unique
  exact ⟨answers.1, answers.2, counted.1, unique⟩

end AgentCompanyOS.Orchestration
