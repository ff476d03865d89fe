import AgentCompanyOS.Foundation.DepthSearch
import AgentCompanyOS.Orchestration.Plans

/-!
# Accepted plans

`validatePlan` accepts a proposal exactly when it answers its request, stays within the
bounds of the policy and orders its tasks without a cycle. Its search is bounded by the
number of tasks in the model; the bound is never reached, so that the source, which has
none, comes to an end as well.
-/

set_option autoImplicit false

namespace AgentCompanyOS.Orchestration

open Foundation Domain AgentCompanyOS.Runtime

/-! ## What a plan has to be -/

/-- An agent offers everything that a task asks for. -/
structure Satisfies (agent : AgentCatalogItem) (requirements : AgentRequirements) : Prop where
  capabilities : ∀ c ∈ requirements.capabilities, c ∈ agent.capabilities
  capabilityIds : ∀ c ∈ requirements.capabilityIds, c ∈ agent.capabilityIds
  tools : ∀ t ∈ requirements.toolIds, t ∈ agent.toolIds
  sources : ∀ s ∈ requirements.knowledgeSourceIds, s ∈ agent.knowledgeSourceIds
  memory : ∀ m ∈ requirements.memoryScopes, m ∈ agent.memoryScopes
  autonomy : requirements.minAutonomy ≤ agent.autonomyCeiling

theorem eligible_eq_true {requirements : AgentRequirements} {agent : AgentCatalogItem} :
    eligible requirements agent = true ↔ Satisfies agent requirements := by
  unfold eligible
  simp only [Bool.and_eq_true, subset_eq_true, decide_eq_true_eq]
  constructor
  · rintro ⟨⟨⟨⟨⟨capabilities, ids⟩, tools⟩, sources⟩, memory⟩, autonomy⟩
    exact ⟨capabilities, ids, tools, sources, memory, autonomy⟩
  · rintro ⟨capabilities, ids, tools, sources, memory, autonomy⟩
    exact ⟨⟨⟨⟨⟨capabilities, ids⟩, tools⟩, sources⟩, memory⟩, autonomy⟩

/-- The id is that of a task of the plan. -/
def IsPlanned (tasks : List PlannedTask) (id : PyStr) : Prop := ∃ task ∈ tasks, task.id = id

/-- The task of the first id waits for the task of the second. -/
def DependsOn (tasks : List PlannedTask) (id dependency : PyStr) : Prop :=
  ∃ task ∈ tasks, task.id = id ∧ dependency ∈ task.dependencies

/-- What a request asks of a single task of a plan. -/
structure TaskAcceptable (request : OrchestrationRequest) (tasks : List PlannedTask)
    (task : PlannedTask) : Prop where
  count : task.dependencies.length ≤ request.policy.maxDependenciesPerTask
  others : ∀ dependency ∈ task.dependencies,
    ∃ other ∈ tasks, other.id = dependency ∧ other.id ≠ task.id
  agent : ∃ agent ∈ request.agents, Satisfies agent task.requirements

/-- What a request asks of a plan. -/
structure Acceptable (request : OrchestrationRequest) (proposal : PlanProposal) : Prop where
  workspace : proposal.workspaceId = request.workspaceId
  goal : proposal.goalId = request.goalId
  count : 1 ≤ proposal.tasks.length ∧ proposal.tasks.length ≤ request.policy.maxTasks
  distinct : (proposal.tasks.map fun task => task.id).Nodup
  tasks : ∀ task ∈ proposal.tasks, TaskAcceptable request proposal.tasks task
  text : (proposal.tasks.map PlannedTask.textSize).sum ≤ request.policy.maxPlanText
  acyclic : ∀ id, ¬Relation.TransGen (DependsOn proposal.tasks) id id
  depth : ∀ path : List PyStr, (∀ id ∈ path, IsPlanned proposal.tasks id) →
    path.IsChain (DependsOn proposal.tasks) → path.length ≤ request.policy.maxDependencyDepth

/-! ## The checks before the search -/

/-- `validate_plan` up to its search. -/
def checkPlan (request : OrchestrationRequest) (proposal : PlanProposal) :
    Except DomainError Unit := do
  rejectIf (proposal.workspaceId ≠ request.workspaceId ∨ proposal.goalId ≠ request.goalId)
    "plan_workspace_or_goal"
  rejectIf (proposal.tasks = [] ∨ request.policy.maxTasks < proposal.tasks.length)
    "plan_task_count"
  rejectIf (¬(proposal.tasks.map fun task => task.id).Nodup) "plan_duplicate_task_id"
  validateTasks request (proposal.tasks.map fun task => task.id) proposal.tasks
  rejectIf (request.policy.maxPlanText < (proposal.tasks.map PlannedTask.textSize).sum)
    "plan_text_limit"

/-- What is checked of a plan before the search. -/
structure Checked (request : OrchestrationRequest) (proposal : PlanProposal) : Prop where
  workspace : proposal.workspaceId = request.workspaceId
  goal : proposal.goalId = request.goalId
  count : 1 ≤ proposal.tasks.length ∧ proposal.tasks.length ≤ request.policy.maxTasks
  distinct : (proposal.tasks.map fun task => task.id).Nodup
  tasks : ∀ task ∈ proposal.tasks, TaskAcceptable request proposal.tasks task
  text : (proposal.tasks.map PlannedTask.textSize).sum ≤ request.policy.maxPlanText

theorem except_bind_iff {ε α β : Type} {x : Except ε α} {f : α → Except ε β} {b : β} :
    (x >>= f) = .ok b ↔ ∃ a, x = .ok a ∧ f a = .ok b := by
  cases x with
  | ok a => exact ⟨fun h => ⟨a, rfl, h⟩, fun ⟨_, same, h⟩ => by cases same; exact h⟩
  | error e => exact ⟨nofun, fun ⟨_, same, _⟩ => nomatch same⟩

theorem unit_exists {P : Unit → Prop} : (∃ u, P u) ↔ P () := ⟨fun ⟨_, h⟩ => h, fun h => ⟨(), h⟩⟩

theorem validatePlanned_iff {request : OrchestrationRequest} {tasks : List PlannedTask}
    {task : PlannedTask} :
    validatePlanned request (tasks.map fun task => task.id) task = .ok () ↔
      TaskAcceptable request tasks task := by
  unfold validatePlanned
  simp only [except_bind_iff, unit_exists, rejectIf_eq_ok, not_lt, not_or, Bool.not_eq_false,
    subset_eq_true, List.mem_map, List.any_eq_true, eligible_eq_true]
  constructor
  · rintro ⟨count, ⟨known, other⟩, agent⟩
    refine ⟨count, fun dependency mem => ?_, agent⟩
    obtain ⟨task', listed, rfl⟩ := known dependency mem
    refine ⟨task', listed, rfl, fun same => ?_⟩
    rw [same] at mem
    exact other mem
  · rintro ⟨count, others, agent⟩
    refine ⟨count, ⟨fun dependency mem => ?_, fun mem => ?_⟩, agent⟩
    · obtain ⟨task', listed, same, -⟩ := others dependency mem
      exact ⟨task', listed, same⟩
    · obtain ⟨task', -, same, other⟩ := others _ mem
      exact other same

theorem validateTasks_iff {request : OrchestrationRequest} {all tasks : List PlannedTask} :
    validateTasks request (all.map fun task => task.id) tasks = .ok () ↔
      ∀ task ∈ tasks, TaskAcceptable request all task := by
  induction tasks with
  | nil => exact ⟨fun _ _ mem => (List.not_mem_nil mem).elim, fun _ => rfl⟩
  | cons task rest ih =>
      unfold validateTasks
      rw [except_bind_iff, unit_exists, validatePlanned_iff, ih, List.forall_mem_cons]

theorem checkPlan_iff {request : OrchestrationRequest} {proposal : PlanProposal} :
    checkPlan request proposal = .ok () ↔ Checked request proposal := by
  unfold checkPlan
  simp only [except_bind_iff, unit_exists, rejectIf_eq_ok, not_or, not_not, not_lt,
    validateTasks_iff]
  constructor
  · rintro ⟨⟨workspace, goal⟩, ⟨some, few⟩, distinct, tasks, text⟩
    exact ⟨workspace, goal, ⟨List.length_pos_iff.mpr some, few⟩, distinct, tasks, text⟩
  · rintro ⟨workspace, goal, ⟨some, few⟩, distinct, tasks, text⟩
    exact ⟨⟨workspace, goal⟩, ⟨List.length_pos_iff.mp some, few⟩, distinct, tasks, text⟩

theorem validatePlan_split (request : OrchestrationRequest) (proposal : PlanProposal) :
    validatePlan request proposal = (checkPlan request proposal >>= fun _ =>
      visitAll (dependenciesOf proposal.tasks) request.policy.maxDependencyDepth
        ((proposal.tasks.map fun task => task.id).length + 1)
        (proposal.tasks.map fun task => task.id) []) := by
  unfold validatePlan checkPlan
  simp only [bind_assoc]

/-! ## The search -/

/-- The violation that a search stops with. -/
def stopError : Stop → DomainError
  | .cycle => .invariantViolation "plan_cycle" []
  | .deep => .invariantViolation "plan_dependency_depth" []

/-- What the recursion answers for the result of a search. -/
def searchAnswer {α : Type} : Except Stop α → Except DomainError α
  | .ok a => .ok a
  | .error stop => .error (stopError stop)

section Visit

variable {graph : PyStr → List PyStr} {limit : Nat} {all : List PyStr}

/-- The step of `visit` over the parents of a node. -/
def visitParent (graph : PyStr → List PyStr) (limit fuel : Nat) (visiting : List PyStr) :
    Nat × List (PyStr × Nat) → PyStr → Except DomainError (Nat × List (PyStr × Nat)) :=
  fun (best, depths) parent => do
    let (depth, depths) ← visit graph limit fuel visiting depths parent
    .ok (max best depth, depths)

theorem visitParent_eq {fuel best : Nat} {visiting : List PyStr} {depths : List (PyStr × Nat)}
    {node : PyStr} : visitParent graph limit fuel visiting (best, depths) node =
      (visit graph limit fuel visiting depths node).map fun (depth, depths) =>
        (max best depth, depths) := by
  show (visit graph limit fuel visiting depths node >>= _) = _
  cases visit graph limit fuel visiting depths node <;> rfl

theorem visit_again {fuel : Nat} {visiting : List PyStr} {depths : List (PyStr × Nat)}
    {node : PyStr} (again : node ∈ visiting) :
    visit graph limit (fuel + 1) visiting depths node = .error (stopError .cycle) := by
  unfold visit
  rw [if_pos again]
  rfl

theorem visit_known {fuel depth : Nat} {visiting : List PyStr} {depths : List (PyStr × Nat)}
    {node : PyStr} (fresh : node ∉ visiting) (found : depths.lookup node = some depth) :
    visit graph limit (fuel + 1) visiting depths node = .ok (depth, depths) := by
  unfold visit
  rw [if_neg fresh, found]

theorem visit_unknown {fuel : Nat} {visiting : List PyStr} {depths : List (PyStr × Nat)}
    {node : PyStr} (fresh : node ∉ visiting) (unknown : depths.lookup node = none) :
    visit graph limit (fuel + 1) visiting depths node =
      ((graph node).foldlM (visitParent graph limit fuel (node :: visiting)) (0, depths) >>=
        fun (best, depths) =>
          if limit < 1 + best then .error (stopError .deep)
          else .ok (1 + best, (node, 1 + best) :: depths)) := by
  unfold visit
  rw [if_neg fresh, unknown]
  show (_ >>= _) = (_ >>= _)
  congr 1
  funext ⟨best, depths⟩
  show (rejectIf (limit < 1 + best) _ >>= _) = if limit < 1 + best then _ else _
  unfold rejectIf
  by_cases exceeds : limit < 1 + best
  · rw [if_pos exceeds, if_pos exceeds]
    rfl
  · rw [if_neg exceeds, if_neg exceeds]
    rfl

/-- With fuel for the tasks that are not on the path, `visit` walks a search to its end. -/
theorem visit_searches (closed : Closed graph all) (fuel : Nat) (visiting nodes : List PyStr)
    (best : Nat) (depths : List (PyStr × Nat)) (path : visiting.Nodup)
    (onPath : ∀ a ∈ visiting, a ∈ all) (inside : ∀ a ∈ nodes, a ∈ all)
    (enough : all.length + 1 ≤ visiting.length + fuel) :
    ∃ r, Search graph limit visiting nodes best depths r ∧
      nodes.foldlM (visitParent graph limit fuel visiting) (best, depths) = searchAnswer r := by
  induction fuel generalizing visiting nodes best depths with
  | zero =>
      -- The path would be longer than the list of all tasks.
      have short : visiting.length ≤ all.length := path.length_le_of_subset onPath
      omega
  | succ fuel ih =>
      induction nodes generalizing best depths with
      | nil => exact ⟨_, .finished, rfl⟩
      | cons node rest walk =>
          have here : node ∈ all := inside node List.mem_cons_self
          have later (best : Nat) (depths : List (PyStr × Nat)) :=
            walk best depths fun a mem => inside a (List.mem_cons_of_mem _ mem)
          rw [List.foldlM_cons, visitParent_eq]
          by_cases again : node ∈ visiting
          · rw [visit_again again]
            exact ⟨_, .cycle again, rfl⟩
          · cases found : depths.lookup node with
            | some depth =>
                rw [visit_known again found]
                obtain ⟨r, next, same⟩ := later (max best depth) depths
                exact ⟨r, .known again found next, same⟩
            | none =>
                obtain ⟨r, inner, same⟩ := ih (node :: visiting) (graph node) 0 depths
                  (path.cons again) (List.forall_mem_cons.mpr ⟨here, onPath⟩)
                  (closed node here) (by rw [List.length_cons]; omega)
                rw [visit_unknown again found, same]
                cases r with
                | error stop => exact ⟨_, .stopped again found inner, rfl⟩
                | ok measured =>
                    obtain ⟨above, mid⟩ := measured
                    show ∃ r, _ ∧ (Except.map _ (if limit < 1 + above then _ else _) >>= _) = _
                    by_cases exceeds : limit < 1 + above
                    · rw [if_pos exceeds]
                      exact ⟨_, .deep again found inner exceeds, rfl⟩
                    · rw [if_neg exceeds]
                      obtain ⟨r, next, same⟩ := later (max best (1 + above))
                        ((node, 1 + above) :: mid)
                      exact ⟨r, .measured again found inner exceeds next, same⟩

/-- The search from every task is that of their list. -/
theorem visitAll_eq {fuel : Nat} (nodes : List PyStr) (best : Nat) (depths : List (PyStr × Nat)) :
    visitAll graph limit fuel nodes depths =
      (nodes.foldlM (visitParent graph limit fuel []) (best, depths)).map fun _ => () := by
  induction nodes generalizing best depths with
  | nil => rfl
  | cons node rest ih =>
      unfold visitAll
      rw [List.foldlM_cons]
      show _ = ((visit graph limit fuel [] depths node >>= _) >>= _).map _
      cases visit graph limit fuel [] depths node with
      | error e => rfl
      | ok measured =>
          obtain ⟨depth, depths⟩ := measured
          exact ih (max best depth) depths

end Visit

/-! ## The graph of a plan -/

section Graph

variable {request : OrchestrationRequest} {tasks : List PlannedTask}

theorem dependenciesOf_task (distinct : (tasks.map fun task => task.id).Nodup) {task : PlannedTask}
    (mem : task ∈ tasks) : dependenciesOf tasks task.id = task.dependencies := by
  induction tasks with
  | nil => cases mem
  | cons first rest ih =>
      obtain ⟨absent, distinct⟩ := List.nodup_cons.mp distinct
      unfold dependenciesOf
      rcases List.mem_cons.mp mem with rfl | old
      · rw [List.find?_cons_of_pos (by simp)]
        rfl
      · have other : first.id ≠ task.id := fun same =>
          absent (List.mem_map.mpr ⟨task, old, same.symm⟩)
        rw [List.find?_cons_of_neg (by simpa using other)]
        exact ih distinct old

/-- An edge of the graph is a dependency of the plan. -/
theorem edge_iff (distinct : (tasks.map fun task => task.id).Nodup) {id dependency : PyStr} :
    Edge (dependenciesOf tasks) id dependency ↔ DependsOn tasks id dependency := by
  constructor
  · intro edge
    unfold Edge dependenciesOf at edge
    cases found : tasks.find? (·.id = id) with
    | none =>
        rw [found] at edge
        exact (List.not_mem_nil edge).elim
    | some task =>
        rw [found] at edge
        exact ⟨task, List.mem_of_find?_eq_some found, by simpa using List.find?_some found, edge⟩
  · rintro ⟨task, mem, rfl, listed⟩
    unfold Edge
    rw [dependenciesOf_task distinct mem]
    exact listed

theorem edge_eq (distinct : (tasks.map fun task => task.id).Nodup) :
    Edge (dependenciesOf tasks) = DependsOn tasks := by
  funext id dependency
  exact propext (edge_iff distinct)

theorem isPlanned_iff {id : PyStr} : id ∈ tasks.map (fun task => task.id) ↔ IsPlanned tasks id :=
  List.mem_map

/-- The dependencies of a checked plan are tasks of it. -/
theorem Checked.closed {proposal : PlanProposal} (h : Checked request proposal) :
    Closed (dependenciesOf proposal.tasks) (proposal.tasks.map fun task => task.id) := by
  intro id _ dependency edge
  obtain ⟨task, listed, -, depends⟩ := (edge_iff h.distinct).mp edge
  obtain ⟨other, found, same, -⟩ := (h.tasks task listed).others dependency depends
  exact List.mem_map.mpr ⟨other, found, same⟩

/-- A cycle of the plan goes through its tasks. -/
theorem acyclicOn_iff (distinct : (tasks.map fun task => task.id).Nodup) :
    AcyclicOn (dependenciesOf tasks) (tasks.map fun task => task.id) ↔
      ∀ id, ¬Relation.TransGen (DependsOn tasks) id id := by
  unfold AcyclicOn
  rw [edge_eq distinct]
  constructor
  · intro acyclic id cycle
    obtain ⟨next, edge, -⟩ := Relation.TransGen.head'_iff.mp cycle
    obtain ⟨task, listed, same, -⟩ := edge
    exact acyclic id (List.mem_map.mpr ⟨task, listed, same⟩) cycle
  · exact fun acyclic id _ => acyclic id

theorem depthWithin_iff (distinct : (tasks.map fun task => task.id).Nodup) {limit : Nat} :
    DepthWithin (dependenciesOf tasks) (tasks.map fun task => task.id) limit ↔
      ∀ path : List PyStr, (∀ id ∈ path, IsPlanned tasks id) → path.IsChain (DependsOn tasks) →
        path.length ≤ limit := by
  unfold DepthWithin
  simp only [edge_eq distinct, isPlanned_iff]

end Graph

/-! ## Validation -/

/-- `validate_plan` with the recursion of the source, which no bound ends: `r` is what the
call answers. -/
def Validates (request : OrchestrationRequest) (proposal : PlanProposal)
    (r : Except DomainError Unit) : Prop :=
  match checkPlan request proposal with
  | .error e => r = .error e
  | .ok () => ∃ result, Search (dependenciesOf proposal.tasks) request.policy.maxDependencyDepth []
      (proposal.tasks.map fun task => task.id) 0 [] result ∧
      r = (searchAnswer result).map fun _ => ()

section Validate

variable {request : OrchestrationRequest} {proposal : PlanProposal}

theorem Validates.unique {r r' : Except DomainError Unit} (h : Validates request proposal r)
    (h' : Validates request proposal r') : r' = r := by
  unfold Validates at h h'
  cases checked : checkPlan request proposal with
  | error e =>
      rw [checked] at h h'
      exact h'.trans h.symm
  | ok _ =>
      rw [checked] at h h'
      obtain ⟨result, search, rfl⟩ := h
      obtain ⟨result', search', rfl⟩ := h'
      rw [search.unique search']

/-- The search of a checked plan comes to its end, and `validatePlan` answers its result. -/
theorem validatePlan_searches (h : Checked request proposal) :
    ∃ result, Search (dependenciesOf proposal.tasks) request.policy.maxDependencyDepth []
      (proposal.tasks.map fun task => task.id) 0 [] result ∧
      validatePlan request proposal = (searchAnswer result).map fun _ => () := by
  obtain ⟨result, search, same⟩ := @visit_searches _ request.policy.maxDependencyDepth _
    h.closed ((proposal.tasks.map fun task => task.id).length + 1) []
    (proposal.tasks.map fun task => task.id) 0 [] List.nodup_nil
    (fun _ mem => (List.not_mem_nil mem).elim) (fun _ mem => mem) (by simp)
  refine ⟨result, search, ?_⟩
  rw [validatePlan_split, checkPlan_iff.mpr h, ← same]
  exact visitAll_eq _ 0 []

theorem validatePlan_validates (request : OrchestrationRequest) (proposal : PlanProposal) :
    Validates request proposal (validatePlan request proposal) := by
  unfold Validates
  cases checked : checkPlan request proposal with
  | error e =>
      rw [validatePlan_split, checked]
      rfl
  | ok _ => exact validatePlan_searches (checkPlan_iff.mp checked)

/-- The search accepts a checked plan exactly when it has no cycle and no long path. -/
theorem validatePlan_ok_iff (h : Checked request proposal) :
    validatePlan request proposal = .ok () ↔
      (∀ id, ¬Relation.TransGen (DependsOn proposal.tasks) id id) ∧
      ∀ path : List PyStr, (∀ id ∈ path, IsPlanned proposal.tasks id) →
        path.IsChain (DependsOn proposal.tasks) →
        path.length ≤ request.policy.maxDependencyDepth := by
  obtain ⟨result, search, same⟩ := validatePlan_searches h
  rw [← acyclicOn_iff h.distinct, ← depthWithin_iff h.distinct, ← search.exact h.closed, same]
  cases result with
  | ok answer => exact ⟨fun _ => ⟨answer, rfl⟩, fun _ => rfl⟩
  | error stop => exact ⟨nofun, nofun⟩

/-- `validate_plan` comes to its end for every request and proposal, with one answer, and
accepts exactly the acceptable ones. -/
theorem validatePlan_exact (request : OrchestrationRequest) (proposal : PlanProposal) :
    (∀ r, Validates request proposal r ↔ r = validatePlan request proposal) ∧
    (validatePlan request proposal = .ok () ↔ Acceptable request proposal) := by
  constructor
  · intro r
    constructor
    · exact fun h => (validatePlan_validates request proposal).unique h
    · rintro rfl
      exact validatePlan_validates request proposal
  · constructor
    · intro accepted
      have checked : Checked request proposal := by
        rw [validatePlan_split] at accepted
        obtain ⟨_, first, -⟩ := except_bind_iff.mp accepted
        exact checkPlan_iff.mp first
      obtain ⟨acyclic, depth⟩ := (validatePlan_ok_iff checked).mp accepted
      exact ⟨checked.workspace, checked.goal, checked.count, checked.distinct, checked.tasks,
        checked.text, acyclic, depth⟩
    · intro h
      have checked : Checked request proposal :=
        ⟨h.workspace, h.goal, h.count, h.distinct, h.tasks, h.text⟩
      exact (validatePlan_ok_iff checked).mpr ⟨h.acyclic, h.depth⟩

end Validate

end AgentCompanyOS.Orchestration
