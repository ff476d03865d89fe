import AgentCompanyOS.Orchestration.Budgets
import AgentCompanyOS.Orchestration.Validation

/-!
# Ready tasks

Every stored plan was accepted by `validatePlan`, so its tasks are ordered without a cycle,
and its materialization gives each of them a canonical task of its own. Whatever the
statuses of these are, `readyTasks` lists those that can be worked on, and as long as the
others are completed or waiting for work there is one.
-/

set_option autoImplicit false

namespace AgentCompanyOS.Orchestration

open Foundation Foundation.Txn Domain AgentCompanyOS.Runtime

variable {s s' : OrchestrationStore} {kind : ChangeKind} {K : List ChangeKind}

/-! ## Stored plans -/

/-- Every stored plan answers a request. -/
def Vetted (s : OrchestrationStore) : Prop :=
  ∀ plan ∈ s.plans.values, ∃ request, Acceptable request plan.proposal

theorem Change.plans (h : Change s kind s') (other : kind ≠ .accepted) : s'.plans = s.plans := by
  cases h with
  | quiet between => exact between.plans
  | materialized run plan m stored current own tasks between => exact between.plans
  | accepted => exact (other rfl).elim
  | _ => rfl

theorem Changes.plans (h : Changes K s s') (other : .accepted ∉ K) : s'.plans = s.plans :=
  h.keeps (P := fun t => t.plans = s.plans) (fun {_ _ _} allowed change same =>
    (change.plans fun eq => other (eq ▸ allowed)).trans same) rfl

/-- What `acceptPlan` files has been validated. -/
theorem acceptPlan_vetted {env : Env} {host : OrchestrationHost} {runId : OrchestrationRunId}
    {request : OrchestrationRequest} {proposal : PlanProposal} {replan : Bool}
    {next : OrchestrationRun} {w w' : World OrchestrationStore} (vetted : Vetted w.store)
    (h : acceptPlan env host runId request proposal replan w = .ok next w') :
    Vetted w'.store := by
  obtain ⟨run, stored, -, rest⟩ := getOrchestrationRun_then (atomic_eq_ok.mp h)
  obtain ⟨goal, -, h⟩ := entityOf_then (E := Goal) rest
  obtain ⟨-, h⟩ := raiseIf_then h
  obtain ⟨_, valid, h⟩ := (reads_checked _).then h
  obtain ⟨_, w₁, -, s₁, h⟩ := Idle.then (idle_selectForAll env host run _) h
  have h := getPlans_then h
  obtain ⟨planId, w₂, identity, s₂, h⟩ := planIdOf_then h
  obtain ⟨-, h⟩ := raiseIf_then h
  obtain ⟨at', w₃, -, s₃, h⟩ := Idle.then (moves_now env) h
  obtain ⟨plan, creating, h⟩ := (reads_checked _).then h
  have fields := PlanVersion.create_eq_ok (checked_eq_ok.mp creating).1
  obtain ⟨_, w₄, added, h⟩ := bind_eq_ok.mp h
  obtain ⟨-, rfl⟩ := addPlan_eq_ok added
  obtain ⟨updated, w₅, saving, h⟩ := bind_eq_ok.mp h
  obtain ⟨_, w₆, -, proposed, h⟩ := (quiet_planEvent env plan .planProposed).then h
  obtain ⟨_, w₇, -, accepted, h⟩ := (quiet_planEvent env plan .planAccepted).then h
  have replanned : Moves quiet (runIf (replan = true)
      (orchestrationEvent env updated .replanCompleted [])) :=
    .runIf fun _ => quiet_orchestrationEvent env updated .replanCompleted []
  obtain ⟨_, w₈, -, closed, h⟩ := replanned.then h
  obtain ⟨rfl, rfl⟩ := pure_eq_ok.mp h
  have proposed : Quiet w₅.store w₆.store := proposed
  have plans : w₈.store.plans = w₃.store.plans.put plan := by
    rw [Quiet.plans closed, Quiet.plans accepted, proposed.plans, (saveChange_saved saving).filed]
  intro other mem
  rw [plans, s₃, s₂, s₁] at mem
  rcases Registry.mem_values_put.mp mem with rfl | ⟨old, -⟩
  · have proposalOf : other.proposal = proposal := congrArg PlanVersionFields.proposal fields
    refine ⟨request, ?_⟩
    rw [proposalOf]
    exact (validatePlan_exact request proposal).2.mp (checked_eq_ok.mp valid).1
  · exact vetted other old

section Steps

variable {platform : Platform} {c : Company}

/-- A step of a call that has asked the planner. -/
theorem Vetted.proceed (h : Vetted c.store) {call : OrchestrationCall}
    {runId : OrchestrationRunId} {request : OrchestrationRequest} {replan : Bool}
    (at' : call.point = .planning runId request replan) (answer : Answer) :
    Vetted (c.proceed platform call answer).store := by
  obtain ⟨id, host, point⟩ := call
  dsimp only at at'
  subst at'
  cases answer with
  | planned reply text =>
      cases reply with
      | error e =>
          unfold Company.proceed
          rw [store_moved]
          exact h
      | ok proposal =>
          unfold Company.proceed
          dsimp only
          cases replied :
            c.reply (acceptPlan platform.toEnv host runId request proposal replan) with
          | ok next =>
              obtain ⟨w', ran, same⟩ := reply_eq_ok replied
              dsimp only
              rw [store_moved, same]
              exact acceptPlan_vetted h ran
          | error e =>
              have kept := ran_of_error (m := acceptPlan platform.toEnv host runId request
                proposal replan) (.atomic _) replied
              dsimp only
              rw [store_moved, kept]
              exact h
  | next | driven => exact h

theorem Vetted.step (h : Vetted c.store) (sound : c.Sound) (label : Label) :
    Vetted (c.step platform label).store := by
  by_cases accepts : .accepted ∈ stepKinds c label
  · -- Only a call that has asked the planner can accept a plan.
    cases label with
    | advance id answer =>
        cases found : c.call? id with
        | none => simp [stepKinds, found] at accepts
        | some call =>
            have stepped : c.step platform (.advance id answer) =
                c.proceed platform call answer := by
              unfold Company.step
              dsimp only
              rw [found]
            rw [stepped]
            cases at' : call.point with
            | planning runId request replan => exact h.proceed at' answer
            | failing | refusing | driving | restoring =>
                simp [stepKinds, found, at', pointKinds] at accepts
    | command host command => exact (accepted_not_mem command accepts).elim
    | runtime label => simp [stepKinds] at accepts
    | drop id => simp [stepKinds] at accepts
  · intro plan mem
    rw [(step_changes platform sound label).plans accepts] at mem
    exact h plan mem

theorem after_vetted (platform : Platform) (labels : List Label) :
    Vetted (Company.after platform labels).store := by
  apply after_invariant platform (P := fun c => Vetted c.store)
  · exact fun _ mem => (List.not_mem_nil mem).elim
  · exact fun label sound vetted => vetted.step sound label

end Steps

/-! ## Plans with canonical tasks -/

/-- A plan and the canonical tasks of its planned tasks, one for each. -/
structure Laid (s : OrchestrationStore) (plan : PlanVersion) (m : PlanMaterialization) :
    Prop where
  vetted : ∃ request, Acceptable request plan.proposal
  covers : m.tasks.map MaterializedTask.plannedTaskId = plan.taskIds
  apart : ∀ item ∈ m.tasks, ∀ item' ∈ m.tasks, item.taskId = item'.taskId →
    item.plannedTaskId = item'.plannedTaskId
  stored : ∀ item ∈ m.tasks, ∃ task, s.runtime.domain.tasks.get? item.taskId = some task

namespace Laid

variable {plan : PlanVersion} {m : PlanMaterialization}

theorem distinct (h : Laid s plan m) : (plan.proposal.tasks.map fun task => task.id).Nodup := by
  obtain ⟨request, acceptable⟩ := h.vetted
  exact acceptable.distinct

/-- Every planned task has a stored task. -/
theorem taskOf (h : Laid s plan m) {id : PyStr} (planned : IsPlanned plan.proposal.tasks id) :
    ∃ task, TaskOf s m id task := by
  obtain ⟨first, listed, rfl⟩ := planned
  have covered : first.id ∈ m.tasks.map MaterializedTask.plannedTaskId := by
    rw [h.covers]
    exact List.mem_map_of_mem listed
  obtain ⟨item, inside, same⟩ := List.mem_map.mp covered
  cases found : m.tasks.find? (·.plannedTaskId = first.id) with
  | none =>
      have missing := List.find?_eq_none.mp found item inside
      simp [same] at missing
  | some item' =>
      obtain ⟨task, present⟩ := h.stored item' (List.mem_of_find?_eq_some found)
      have key : Task.id task = item'.taskId := Registry.key_of_get? present
      refine ⟨task, ?_, key ▸ present⟩
      unfold PlanMaterialization.taskOf
      rw [found, key]
      rfl

/-- The dependencies of a planned task are planned. -/
theorem dependency (h : Laid s plan m) {planned : PlannedTask}
    (listed : planned ∈ plan.proposal.tasks) {id : PyStr} (depends : id ∈ planned.dependencies) :
    IsPlanned plan.proposal.tasks id := by
  obtain ⟨request, acceptable⟩ := h.vetted
  obtain ⟨other, found, same, -⟩ := (acceptable.tasks planned listed).others id depends
  exact ⟨other, found, same⟩

/-- Planned tasks with the same canonical task are the same. -/
theorem same_id (h : Laid s plan m) {id id' : PyStr} {task task' : Task}
    (first : m.taskOf id = some task.id) (second : m.taskOf id' = some task'.id)
    (same : task.id = task'.id) : id = id' := by
  have source {id : PyStr} {task : Task} (named : m.taskOf id = some task.id) :
      ∃ item ∈ m.tasks, item.plannedTaskId = id ∧ item.taskId = task.id := by
    unfold PlanMaterialization.taskOf at named
    obtain ⟨item, found, taskId⟩ := Option.map_eq_some_iff.mp named
    exact ⟨item, List.mem_of_find?_eq_some found, by simpa using List.find?_some found, taskId⟩
  obtain ⟨item, inside, planned, taskId⟩ := source first
  obtain ⟨item', inside', planned', taskId'⟩ := source second
  rw [← planned, ← planned']
  exact h.apart item inside item' inside' (taskId.trans (same.trans taskId'.symm))

end Laid

/-! ## What `readyTasks` answers -/

/-- A planned task can be worked on through its canonical task. -/
structure Workable (s : OrchestrationStore) (m : PlanMaterialization) (planned : PlannedTask)
    (task : Task) : Prop where
  taskOf : TaskOf s m planned.id task
  open' : task.status = .proposed ∨ task.status = .ready
  done : DependenciesDone s m planned

/-- The first task is to be worked on before the second: it has the lower priority value, or
the same and the earlier place in the proposal. -/
def Precedes (plan : PlanVersion) (m : PlanMaterialization) (a b : Task) : Prop :=
  ∃ (i j : Nat) (p q : PlannedTask), plan.proposal.tasks[i]? = some p ∧
    plan.proposal.tasks[j]? = some q ∧ m.taskOf p.id = some a.id ∧ m.taskOf q.id = some b.id ∧
    (p.priority < q.priority ∨ p.priority = q.priority ∧ i < j)

section Ready

variable {plan : PlanVersion} {m : PlanMaterialization} {w : World OrchestrationStore}

theorem TaskOf.unique {id : PyStr} {task task' : Task} (h : TaskOf s m id task)
    (h' : TaskOf s m id task') : task = task' := by
  have same : task.id = task'.id := Option.some.inj (h.1.symm.trans h'.1)
  have found := h.2
  rw [same, h'.2] at found
  exact (Option.some.inj found).symm

theorem plannedTask_of {id : PyStr} {task : Task} (h : TaskOf w.store m id task) :
    plannedTask m id w = .ok task w := by
  unfold plannedTask
  rw [bind_of_ok (need_of_some h.1 w)]
  exact entityOf_of (E := Task) h.2

theorem plannedTasks_of {ids : List PyStr} (h : ∀ id ∈ ids, ∃ task, TaskOf w.store m id task) :
    ∃ tasks, plannedTasks m ids w = .ok tasks w ∧
      (tasks.all (fun item => item.status = .completed) = true ↔
        ∀ id ∈ ids, ∃ task, TaskOf w.store m id task ∧ task.status = .completed) := by
  induction ids with
  | nil => exact ⟨[], rfl, by simp⟩
  | cons id rest ih =>
      obtain ⟨task, here⟩ := h id List.mem_cons_self
      obtain ⟨tasks, reading, all⟩ := ih fun other mem => h other (List.mem_cons_of_mem _ mem)
      refine ⟨task :: tasks, ?_, ?_⟩
      · unfold plannedTasks
        rw [bind_of_ok (plannedTask_of here), bind_of_ok reading]
        rfl
      · rw [List.all_cons, Bool.and_eq_true, all, List.forall_mem_cons, decide_eq_true_eq]
        constructor
        · rintro ⟨completed, others⟩
          exact ⟨⟨task, here, completed⟩, others⟩
        · rintro ⟨⟨found, taskOf, completed⟩, others⟩
          rw [here.unique taskOf]
          exact ⟨completed, others⟩

/-- The entries of the tasks that can be worked on, in the order of the proposal. -/
structure Entries (s : OrchestrationStore) (m : PlanMaterialization)
    (items : List (PlannedTask × Nat)) (entries : List (Nat × Nat × Task)) : Prop where
  mem : ∀ entry, entry ∈ entries ↔ ∃ planned, (planned, entry.2.1) ∈ items ∧
    planned.priority = entry.1 ∧ Workable s m planned entry.2.2
  positions : (entries.map fun entry => entry.2.1).Sublist (items.map Prod.snd)

theorem readyAmong_of {items : List (PlannedTask × Nat)}
    (h : ∀ item ∈ items, (∃ task, TaskOf w.store m item.1.id task) ∧
      ∀ id ∈ item.1.dependencies, ∃ task, TaskOf w.store m id task) :
    ∃ entries, readyAmong m items w = .ok entries w ∧ Entries w.store m items entries := by
  induction items with
  | nil => exact ⟨[], rfl, by simp, .slnil⟩
  | cons item rest ih =>
      obtain ⟨planned, position⟩ := item
      obtain ⟨⟨task, here⟩, dependencies⟩ := h _ List.mem_cons_self
      obtain ⟨entries, reading, held⟩ := ih fun other mem => h other (List.mem_cons_of_mem _ mem)
      obtain ⟨tasks, depended, all⟩ := plannedTasks_of dependencies
      have workable : ((task.status = .proposed ∨ task.status = .ready) ∧
          tasks.all (fun item => item.status = .completed) = true) ↔
          Workable w.store m planned task := by
        rw [all]
        exact ⟨fun ⟨open', done⟩ => ⟨here, open', done⟩, fun held => ⟨held.open', held.done⟩⟩
      refine ⟨if (task.status = .proposed ∨ task.status = .ready) ∧
          tasks.all (fun item => item.status = .completed) = true then
          (planned.priority, position, task) :: entries else entries, ?_, ?_⟩
      · unfold readyAmong
        rw [bind_of_ok (plannedTask_of here), bind_of_ok depended, bind_of_ok reading]
        rfl
      · split
        · next listed =>
            constructor
            · intro entry
              rw [List.mem_cons, held.mem]
              constructor
              · rintro (rfl | ⟨p, inside, facts⟩)
                · exact ⟨planned, List.mem_cons_self, rfl, workable.mp listed⟩
                · exact ⟨p, List.mem_cons_of_mem _ inside, facts⟩
              · rintro ⟨p, inside, priority, facts⟩
                rcases List.mem_cons.mp inside with same | old
                · obtain ⟨rfl, position'⟩ := Prod.mk.inj same
                  refine .inl (Prod.ext priority.symm (Prod.ext position' ?_))
                  exact facts.taskOf.unique here
                · exact .inr ⟨p, old, priority, facts⟩
            · exact held.positions.cons_cons position
        · next skipped =>
            constructor
            · intro entry
              rw [held.mem]
              constructor
              · rintro ⟨p, inside, facts⟩
                exact ⟨p, List.mem_cons_of_mem _ inside, facts⟩
              · rintro ⟨p, inside, priority, facts⟩
                rcases List.mem_cons.mp inside with same | old
                · obtain ⟨rfl, -⟩ := Prod.mk.inj same
                  rw [facts.taskOf.unique here] at facts
                  exact (skipped (workable.mpr facts)).elim
                · exact ⟨p, old, priority, facts⟩
            · exact held.positions.cons position

/-- The order in which `readyTasks` sorts its entries. -/
def entryLe (a b : Nat × Nat × Task) : Prop := a.1 < b.1 ∨ a.1 = b.1 ∧ a.2.1 ≤ b.2.1

instance : DecidableRel entryLe := fun _ _ => inferInstanceAs (Decidable (_ ∨ _))

instance : Std.Total entryLe := ⟨fun a b => by unfold entryLe; omega⟩

instance : IsTrans (Nat × Nat × Task) entryLe := ⟨fun a b c => by unfold entryLe; omega⟩

/-- What `readyTasks` has to answer. -/
structure ReadyList (s : OrchestrationStore) (plan : PlanVersion) (m : PlanMaterialization)
    (ready : List Task) : Prop where
  mem : ∀ task, task ∈ ready ↔ ∃ planned ∈ plan.proposal.tasks, Workable s m planned task
  once : (ready.map Task.id).Nodup
  ordered : ready.Pairwise (Precedes plan m)

/-- The sorted entries are the tasks that can be worked on. -/
theorem Entries.ready (laid : Laid s plan m) {entries : List (Nat × Nat × Task)}
    (h : Entries s m plan.proposal.tasks.zipIdx entries) :
    ReadyList s plan m ((entries.insertionSort entryLe).map fun entry => entry.2.2) := by
  have placed (entry : Nat × Nat × Task) (mem : entry ∈ entries) :
      ∃ planned, plan.proposal.tasks[entry.2.1]? = some planned ∧ planned.priority = entry.1 ∧
        Workable s m planned entry.2.2 := by
    obtain ⟨planned, listed, facts⟩ := (h.mem entry).mp mem
    exact ⟨planned, List.mem_zipIdx_iff_getElem?.mp listed, facts⟩
  have perm := List.perm_insertionSort entryLe entries
  have positions : ((entries.insertionSort entryLe).map fun entry => entry.2.1).Nodup := by
    refine (perm.map _).nodup_iff.mpr (h.positions.nodup ?_)
    rw [List.zipIdx_map_snd]
    exact List.nodup_range'
  have sorted := List.pairwise_insertionSort entryLe entries
  -- Two entries have different places, so that the one before comes strictly first.
  have ordered : (entries.insertionSort entryLe).Pairwise fun a b =>
      Precedes plan m a.2.2 b.2.2 := by
    refine (sorted.and (List.pairwise_map.mp positions)).imp_of_mem ?_
    rintro a b memA memB ⟨le, apart⟩
    obtain ⟨p, atP, priorityP, workP⟩ := placed a (perm.mem_iff.mp memA)
    obtain ⟨q, atQ, priorityQ, workQ⟩ := placed b (perm.mem_iff.mp memB)
    refine ⟨a.2.1, b.2.1, p, q, atP, atQ, workP.taskOf.1, workQ.taskOf.1, ?_⟩
    rw [priorityP, priorityQ]
    unfold entryLe at le
    omega
  constructor
  · intro task
    rw [List.mem_map]
    constructor
    · rintro ⟨entry, mem, rfl⟩
      obtain ⟨planned, atP, -, workable⟩ := placed entry (perm.mem_iff.mp mem)
      exact ⟨planned, List.mem_of_getElem? atP, workable⟩
    · rintro ⟨planned, listed, workable⟩
      obtain ⟨i, atI⟩ := List.getElem?_of_mem listed
      refine ⟨(planned.priority, i, task), perm.mem_iff.mpr ((h.mem _).mpr ?_), rfl⟩
      exact ⟨planned, List.mem_zipIdx_iff_getElem?.mpr atI, rfl, workable⟩
  · rw [List.map_map]
    refine List.pairwise_map.mpr (ordered.imp ?_)
    rintro a b ⟨i, j, p, q, atP, atQ, taskP, taskQ, before⟩ same
    -- Tasks that are planned apart have canonical tasks of their own.
    have sameId : p.id = q.id := laid.same_id taskP taskQ same
    have samePlace : i = j := by
      obtain ⟨inside, -⟩ := List.getElem?_eq_some_iff.mp atP
      refine (List.getElem?_inj (by rw [List.length_map]; exact inside) laid.distinct).mp ?_
      rw [List.getElem?_map, List.getElem?_map, atP, atQ, Option.map_some, Option.map_some, sameId]
    obtain rfl := samePlace
    rw [atP] at atQ
    obtain rfl := Option.some.inj atQ
    omega
  · exact List.pairwise_map.mpr ordered

/-- `readyTasks` of a running run whose plan is materialized. -/
theorem readyTasks_of {run : OrchestrationRun} (stored : w.store.runs.get? run.id = some run)
    (running : run.status = .running) (scope : run.workspaceId = plan.workspaceId)
    (current : Current w.store run plan m) (laid : Laid w.store plan m) :
    ∃ ready, readyTasks run.workspaceId run.id w = .ok ready w ∧
      ReadyList w.store plan m ready := by
  have reading : getCurrent run w = .ok (plan, m) w := by
    unfold getCurrent
    rw [current.planId, current.version, scope]
    dsimp only
    rw [bind_of_ok (getPlan_of current.stored),
      bind_of_ok (getMaterialization_of current.stored current.materialized)]
    rfl
  have tasks (item : PlannedTask × Nat) (mem : item ∈ plan.proposal.tasks.zipIdx) :
      (∃ task, TaskOf w.store m item.1.id task) ∧
        ∀ id ∈ item.1.dependencies, ∃ task, TaskOf w.store m id task := by
    have listed := List.fst_mem_of_mem_zipIdx mem
    exact ⟨laid.taskOf ⟨item.1, listed, rfl⟩, fun id depends =>
      laid.taskOf (laid.dependency listed depends)⟩
  obtain ⟨entries, among, held⟩ := @readyAmong_of m w plan.proposal.tasks.zipIdx tasks
  refine ⟨_, ?_, held.ready laid⟩
  unfold readyTasks
  rw [bind_of_ok (getOrchestrationRun_of stored), if_neg (not_not.mpr running),
    bind_of_ok reading]
  dsimp only
  rw [bind_of_ok among]
  rfl

/-! ## Progress -/

/-- While the tasks that are not completed wait for work, one of them can be worked on. -/
theorem ready_progress (laid : Laid s plan m)
    (waiting : ∀ planned ∈ plan.proposal.tasks, ∀ task, TaskOf s m planned.id task →
      task.status = .completed ∨ task.status = .proposed ∨ task.status = .ready)
    {planned : PlannedTask} (listed : planned ∈ plan.proposal.tasks) {task : Task}
    (taskOf : TaskOf s m planned.id task) (incomplete : task.status ≠ .completed) :
    ∃ planned ∈ plan.proposal.tasks, ∃ task, Workable s m planned task := by
  obtain ⟨request, acceptable⟩ := laid.vetted
  have acyclic := (acyclicOn_iff acceptable.distinct).mpr acceptable.acyclic
  -- A task without an incomplete dependency among the incomplete ones.
  obtain ⟨id, mem, ⟨found, here, open'⟩, minimal⟩ := acyclic.exists_minimal
    (P := fun id => ∃ task, TaskOf s m id task ∧ task.status ≠ .completed)
    (List.mem_map_of_mem listed) ⟨task, taskOf, incomplete⟩
  obtain ⟨first, among, rfl⟩ := List.mem_map.mp mem
  refine ⟨first, among, found, here, (waiting first among found here).resolve_left open', ?_⟩
  intro dependency depends
  obtain ⟨other, theirs⟩ := laid.taskOf (laid.dependency among depends)
  refine ⟨other, theirs, ?_⟩
  by_contra unfinished
  refine minimal dependency (List.mem_map.mpr (laid.dependency among depends)) ?_
    ⟨other, theirs, unfinished⟩
  rw [dependenciesOf_task acceptable.distinct among]
  exact depends

end Ready

/-! ## Every run -/

/-- The materialized current plan of a run, in every store that has its tasks. -/
theorem laid_of (platform : Platform) (labels : List Label) {run : OrchestrationRun}
    {plan : PlanVersion} {m : PlanMaterialization}
    (current : Current (Company.after platform labels).store run plan m)
    (tasks : ∀ item ∈ m.tasks, ∃ task, s.runtime.domain.tasks.get? item.taskId = some task) :
    Laid s plan m := by
  have materials := after_materials platform labels
  have filed := Registry.mem_values_of_get? current.materialized
  obtain ⟨covered, stored, -, same⟩ := materials.covers m filed
  have key : PlanMaterialization.key m = plan.key := Registry.key_of_get? current.materialized
  rw [key, current.stored] at stored
  obtain rfl := Option.some.inj stored
  refine ⟨after_vetted platform labels plan (Registry.mem_values_of_get? current.stored), same,
    ?_, tasks⟩
  intro item inside item' inside' shared
  exact (materials.injective m filed m filed item inside item' inside' shared).2

/-- In every reached state, whatever the statuses of the tasks are: `readyTasks` of a running
run answers with exactly the tasks that can be worked on, each once and in order, and with at
least one when those that are not completed wait for work. -/
theorem ready_tasks (platform : Platform) (labels : List Label) :
    ∀ run ∈ (Company.after platform labels).store.runs.values, run.status = .running →
    ∀ plan m, Current (Company.after platform labels).store run plan m →
    -- The store may give the tasks of the plan any other status.
    ∀ w : World OrchestrationStore,
      w.store.toOrchestrationTables =
        (Company.after platform labels).store.toOrchestrationTables →
      (∀ item ∈ m.tasks, ∃ task, w.store.runtime.domain.tasks.get? item.taskId = some task) →
    ∃ ready, readyTasks run.workspaceId run.id w = .ok ready w ∧
      ReadyList w.store plan m ready ∧
      ((∃ planned ∈ plan.proposal.tasks, ∃ task, TaskOf w.store m planned.id task ∧
          task.status ≠ .completed) →
        (∀ planned ∈ plan.proposal.tasks, ∀ task, TaskOf w.store m planned.id task →
          task.status = .completed ∨ task.status = .proposed ∨ task.status = .ready) →
        ready ≠ []) := by
  intro run mem running plan m current w tables tasks
  have ledger := (after_sound platform labels).ledger
  have laid : Laid w.store plan m := laid_of platform labels current tasks
  have stored : (Company.after platform labels).store.runs.get? run.id = some run :=
    Registry.get?_of_mem_values mem
  have scope : run.workspaceId = plan.workspaceId := by
    obtain ⟨owner, found, -, scope⟩ :=
      ledger.owned plan (Registry.mem_values_of_get? current.stored)
    rw [current.own ledger mem, stored] at found
    obtain rfl := Option.some.inj found
    exact scope
  have here : Current w.store run plan m := by
    refine ⟨current.planId, current.version, ?_, ?_⟩
    · rw [tables]
      exact current.stored
    · rw [tables]
      exact current.materialized
  rw [← tables] at stored
  obtain ⟨ready, reading, list⟩ := readyTasks_of stored running scope here laid
  refine ⟨ready, reading, list, ?_⟩
  rintro ⟨planned, listed, task, taskOf, incomplete⟩ waiting empty
  obtain ⟨first, among, found, workable⟩ := ready_progress laid waiting listed taskOf incomplete
  have inside := (list.mem found).mpr ⟨first, among, workable⟩
  rw [empty] at inside
  cases inside

/-! ### A plan with a dependency -/

section Sample

/-- A task that waits for the draft. -/
def publishTask : PlannedTask :=
  { draftTask with
    id := py "publish"
    dependencies := [py "draft"]
    priority := 0
    valid := ⟨by decide, by decide, by decide, by decide, by decide⟩ }

/-- A materialized plan whose first task waits for its second. -/
def orderedRun : List Label := [
  .runtime (.command (.domain (.createWorkspace (py "acme")))),
  .runtime (.command (.domain (.createGoal ⟨sampleWorkspace, py "reach out", [py "sent"], []⟩))),
  .runtime (.command (.domain (.activateGoal sampleGoal (changed 0)))),
  .runtime (.command (.publishDefinition writerDefinition)),
  .command soloHost (.start sampleWorkspace sampleGoal .default none),
  .advance 0 (.planned (.ok ⟨sampleWorkspace, sampleGoal, [publishTask, draftTask]⟩) []),
  .command soloHost (.materialize sampleWorkspace sampleOrchestration (changed 1))]

/-- A running run that has a ready task has a materialized plan. -/
theorem current_of_ready {c : Company} {workspaceId : WorkspaceId} {runId : OrchestrationRunId}
    {run : OrchestrationRun} {task : Task} {ready : List Task}
    (stored : c.store.runs.get? runId = some run)
    (replied : c.reply (readyTasks workspaceId runId) = .ok (task :: ready)) :
    run.status = .running ∧ ∃ plan m, Current c.store run plan m := by
  obtain ⟨w', read, -⟩ := reply_eq_ok replied
  have first := readyTasks_eq_ok stored read task List.mem_cons_self
  obtain ⟨plan, m, current, -⟩ := first.planned
  exact ⟨first.running, plan, m, current⟩

theorem world_store (c : Company) : c.world.store = c.store := rfl

theorem ordered_ready : ∃ run ∈ (Company.after numberedPlatform orderedRun).store.runs.values,
    ∃ plan m ready, readyTasks run.workspaceId run.id
        (Company.after numberedPlatform orderedRun).world =
          .ok ready (Company.after numberedPlatform orderedRun).world ∧
      ReadyList (Company.after numberedPlatform orderedRun).store plan m ready ∧ ready ≠ [] := by
  have answered : (∃ run, (Company.after numberedPlatform orderedRun).store.runs.get?
      sampleOrchestration = some run) ∧ ∃ task ready, (Company.after numberedPlatform
      orderedRun).reply (readyTasks sampleWorkspace sampleOrchestration) = .ok (task :: ready) := by
    have run : ((Company.after numberedPlatform orderedRun).store.runs.get?
        sampleOrchestration).isSome = true := by decide +kernel
    have list : (((Company.after numberedPlatform orderedRun).reply (readyTasks sampleWorkspace
        sampleOrchestration)).toOption.bind List.head?).isSome = true := by decide +kernel
    refine ⟨Option.isSome_iff_exists.mp run, ?_⟩
    cases replied : (Company.after numberedPlatform orderedRun).reply (readyTasks sampleWorkspace
        sampleOrchestration) with
    | error e =>
        rw [replied] at list
        cases list
    | ok ready =>
        cases ready with
        | nil =>
            rw [replied] at list
            cases list
        | cons task ready => exact ⟨task, ready, rfl⟩
  obtain ⟨⟨run, stored⟩, task, ready, replied⟩ := answered
  obtain ⟨running, plan, m, current⟩ := current_of_ready stored replied
  have listed := Registry.mem_values_of_get? stored
  have proposed : ∀ task ∈ (Company.after numberedPlatform
      orderedRun).store.runtime.domain.tasks.values, task.status = .proposed := by
    decide +kernel
  have status {id : PyStr} {task : Task} (h : TaskOf
      (Company.after numberedPlatform orderedRun).store m id task) : task.status = .proposed :=
    proposed task (Registry.mem_values_of_get? h.2)
  have tasks := (after_materials numberedPlatform orderedRun).stored m
    (Registry.mem_values_of_get? current.materialized)
  have laid := laid_of numberedPlatform orderedRun current tasks
  obtain ⟨ready, reading, list, progress⟩ := ready_tasks numberedPlatform orderedRun run listed
    running plan m current (Company.after numberedPlatform orderedRun).world (by rw [world_store])
    (by rw [world_store]; exact tasks)
  rw [world_store] at list progress
  refine ⟨run, listed, plan, m, ready, reading, list, progress ?_ fun p _ task h => ?_⟩
  · obtain ⟨request, acceptable⟩ := laid.vetted
    obtain ⟨first, among⟩ := List.exists_mem_of_length_pos acceptable.count.1
    obtain ⟨task, taskOf⟩ := laid.taskOf ⟨first, among, rfl⟩
    refine ⟨first, among, task, taskOf, ?_⟩
    rw [status taskOf]
    intro completed
    cases completed
  · exact .inr (.inl (status h))

end Sample

end AgentCompanyOS.Orchestration
