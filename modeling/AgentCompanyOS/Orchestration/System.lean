import AgentCompanyOS.Runtime.System
import AgentCompanyOS.Orchestration.Settling

/-!
# The orchestration service at work

The transactions of `OrchestrationService` beside the runtime system that they share a
store, the identifiers and the clock with. A `start` or `replan` is in flight between the
transaction that asks the planner and the one that has its answer; an `execute` or
`resume_delegation` is in flight while the agent run is driven. What the planner answers
and what the driven run was when its call returned come from outside. Any call may be
dropped at any step, and calls of any number of hosts interleave.
-/

set_option autoImplicit false

namespace AgentCompanyOS.Orchestration

open Foundation Foundation.Txn Domain AgentCompanyOS.Runtime

/-! ## Calls in flight -/

/-- Where a call stands between two transactions. -/
inductive CallPoint where
  /-- The planner is asked. -/
  | planning (runId : OrchestrationRunId) (request : OrchestrationRequest) (replan : Bool)
  | failing (workspaceId : WorkspaceId) (runId : OrchestrationRunId) (reason : PyStr)
  | refusing (workspaceId : WorkspaceId) (runId : OrchestrationRunId) (escalation : String)
      (reason : PyStr)
  /-- The child is driven, for `approval` by `resume_approval`. -/
  | driving (workspaceId : WorkspaceId) (runId : OrchestrationRunId) (approval : Bool)
  | restoring (workspaceId : WorkspaceId) (runId : OrchestrationRunId)

/-- A call in flight with the host that makes it. -/
structure OrchestrationCall where
  id : Nat
  host : OrchestrationHost
  point : CallPoint

/-- What the environment contributes to a step of a call. -/
inductive Answer where
  | next
  /-- The planner's proposal, or its exception with its text. -/
  | planned (reply : Except Exc PlanProposal) (text : PyStr)
  /-- What the drive of the child has returned or raised. -/
  | driven (result : Except Exc AgentRun)

/-- `getattr(error, "code", "planner_failed")`. -/
def errorCode : Exc → PyStr
  | .domain e => e.code
  | .model code => code.value
  | .tool code => code.value
  | _ => py "planner_failed"

/-- The runtime system with the orchestration tables and the calls of the service. -/
structure Company where
  runtime : Sys
  tables : OrchestrationTables
  calls : List OrchestrationCall
  issued : Nat

namespace Company

/-- A migrated database and no calls. -/
def empty : Company := ⟨.empty, .empty, [], 0⟩

/-- The store of the service. -/
def store (s : Company) : OrchestrationStore := ⟨s.tables, s.runtime.store⟩

/-- The store with the counters of the shared generator and clock. -/
def world (s : Company) : World OrchestrationStore :=
  ⟨s.store, s.runtime.shared.world.issued, s.runtime.shared.world.reads⟩

/-- The state after a transaction of the service. -/
def put (s : Company) (w : World OrchestrationStore) : Company :=
  { s with
    tables := w.store.toOrchestrationTables
    runtime := { s.runtime with shared := { s.runtime.shared with
      world := ⟨w.store.runtime, w.issued, w.reads⟩ } } }

/-- A transaction, whether it returned or raised. -/
def ran {α : Type} (s : Company) (m : OrchestrationTxn α) : Company :=
  s.put (World.after (m s.world))

/-- What a transaction answers. -/
def reply {α : Type} (s : Company) (m : OrchestrationTxn α) : Except Exc α :=
  World.answer (m s.world)

/-- A new call in flight. -/
def opened (s : Company) (host : OrchestrationHost) (point : CallPoint) : Company :=
  { s with calls := s.calls ++ [⟨s.issued, host, point⟩], issued := s.issued + 1 }

/-- The calls after one of them has moved or ended. -/
def moved (s : Company) (id : Nat) (next : Option CallPoint) : Company :=
  match next with
  | some point =>
      { s with calls := s.calls.map fun c => if c.id = id then { c with point := point } else c }
  | none => { s with calls := s.calls.filter (·.id ≠ id) }

/-- A call of the runtime that the service awaits. -/
def awaiting (s : Company) (host : OrchestrationHost) (request : Request) (point : CallPoint)
    (platform : Platform) : Company :=
  { s with runtime := s.runtime.step platform (.open host.runtime request) }.opened host point

end Company

/-! ## Commands -/

/-- A command of the service with its arguments; `handOff` is the part of
`resolve_handoff` that changes the orchestration. -/
inductive OrchestrationCommand where
  | start (workspaceId : WorkspaceId) (goalId : GoalId) (policy : OrchestrationPolicy)
      (sourceDepartment : Option DepartmentId)
  | replan (workspaceId : WorkspaceId) (runId : OrchestrationRunId) (expected : Version)
  | materialize (workspaceId : WorkspaceId) (runId : OrchestrationRunId) (expected : Version)
  | delegate (workspaceId : WorkspaceId) (runId : OrchestrationRunId) (taskId : TaskId)
      (expected : Version) (mode : DelegationMode) (target : Option AgentDefinitionVersion)
  | startDelegation (workspaceId : WorkspaceId) (runId : OrchestrationRunId)
      (delegationId : DelegationId) (expected : Version) (context : SuppliedContext)
      (executionId : Option ExecutionId)
  | execute (workspaceId : WorkspaceId) (runId : OrchestrationRunId)
      (delegationId : DelegationId) (expected : Version) (context : SuppliedContext)
  | resumeDelegation (workspaceId : WorkspaceId) (runId : OrchestrationRunId)
      (delegationId : DelegationId) (expected : Version) (context : SuppliedContext)
      (intentId : Option ActionIntentId)
  | reconcileChild (workspaceId : WorkspaceId) (runId : OrchestrationRunId)
      (agentRunId : AgentRunId) (expected : Version)
  | handOff (workspaceId : WorkspaceId) (runId : OrchestrationRunId) (senderId : AgentRunId)
      (senderVersion : Version) (taskId : TaskId) (selected : AgentDefinitionVersion)
  | cancel (workspaceId : WorkspaceId) (runId : OrchestrationRunId) (expected : Version)

/-- What can happen next. -/
inductive Label where
  | runtime (label : Runtime.Label)
  | command (host : OrchestrationHost) (command : OrchestrationCommand)
  | advance (call : Nat) (answer : Answer)
  | drop (call : Nat)

namespace Company

/-- A call by its number. -/
def call? (s : Company) (id : Nat) : Option OrchestrationCall := s.calls.find? (·.id = id)

/-- The runtime call that a resumed delegation awaits. -/
def resumeRequest (workspaceId : WorkspaceId) (resumed : AgentRun) :
    Option ActionIntentId → Request
  | some intentId => .resumeApproval workspaceId resumed.id intentId resumed.version
  | none => .drive workspaceId resumed.id resumed.version

/-- A command up to the point where it ends or awaits an answer. -/
def issue (platform : Platform) (s : Company) (host : OrchestrationHost) :
    OrchestrationCommand → Company
  | .start workspaceId goalId policy department =>
      let m := openStart platform.toEnv host workspaceId goalId policy department
      match s.reply m with
      | .ok (run, request) => (s.ran m).opened host (.planning run.id request false)
      | .error _ => s.ran m
  | .replan workspaceId runId expected =>
      let m := openReplan platform.toEnv host workspaceId runId expected
      match s.reply m with
      | .ok (.planning run request) => (s.ran m).opened host (.planning run.id request true)
      | _ => s.ran m
  | .materialize workspaceId runId expected =>
      s.ran (materialize platform.toEnv workspaceId runId expected)
  | .delegate workspaceId runId taskId expected mode target =>
      s.ran (delegate platform.toEnv host workspaceId runId taskId expected mode target)
  | .startDelegation workspaceId runId delegationId expected context executionId =>
      s.ran (startDelegation platform.toEnv host workspaceId runId delegationId expected context
        executionId)
  | .execute workspaceId runId delegationId expected context =>
      let m := startDelegation platform.toEnv host workspaceId runId delegationId expected context
        none
      match s.reply m with
      | .ok run => (s.ran m).awaiting host (.drive workspaceId run.id run.version)
          (.driving workspaceId runId false) platform
      | .error _ => s.ran m
  | .resumeDelegation workspaceId runId delegationId expected context intentId =>
      let m := openResume platform.toEnv workspaceId runId delegationId expected context intentId
      match s.reply m with
      | .ok resumed => (s.ran m).awaiting host (resumeRequest workspaceId resumed intentId)
          (.driving workspaceId runId intentId.isSome) platform
      | .error _ => s.ran m
  | .reconcileChild workspaceId runId agentRunId expected =>
      s.ran (reconcileChild platform.toEnv workspaceId runId agentRunId expected)
  | .handOff workspaceId runId senderId senderVersion taskId selected =>
      s.ran (atomic (handOff platform.toEnv host workspaceId runId senderId senderVersion taskId
        selected))
  | .cancel workspaceId runId expected => s.ran (cancel platform.toEnv workspaceId runId expected)

/-- Where a call whose proposal was not accepted goes on. -/
def afterRejection (request : OrchestrationRequest) (runId : OrchestrationRunId)
    (replan : Bool) (e : Exc) : Option CallPoint :=
  match replan, e with
  -- `start` records every exception but a cancellation, `replan` only a domain error.
  | false, .cancelled => none
  | false, e => some (.failing request.workspaceId runId (errorCode e))
  | true, .domain e => some (.refusing request.workspaceId runId "plan_rejected" e.code)
  | true, _ => none

/-- Where a call whose planner failed goes on. -/
def afterPlannerFailure (request : OrchestrationRequest) (runId : OrchestrationRunId)
    (replan : Bool) (e : Exc) (text : PyStr) : Option CallPoint :=
  if e = .cancelled then none
  else if replan = true then
    some (.refusing request.workspaceId runId "planner_failed" (text.take 128))
  else some (.failing request.workspaceId runId (errorCode e))

/-- One step of a call. -/
def proceed (platform : Platform) (s : Company) (call : OrchestrationCall) (answer : Answer) :
    Company :=
  match call.point, answer with
  | .planning runId request replan, .planned (.ok proposal) _ =>
      let m := acceptPlan platform.toEnv call.host runId request proposal replan
      match s.reply m with
      | .ok _ => (s.ran m).moved call.id none
      | .error e => (s.ran m).moved call.id (afterRejection request runId replan e)
  | .planning runId request replan, .planned (.error e) text =>
      s.moved call.id (afterPlannerFailure request runId replan e text)
  | .failing workspaceId runId reason, .next =>
      (s.ran (failStart platform.toEnv workspaceId runId reason)).moved call.id none
  | .refusing workspaceId runId escalation reason, .next =>
      (s.ran (waitAfterPlanning platform.toEnv workspaceId runId escalation reason)).moved call.id
        none
  | .driving workspaceId runId _, .driven (.ok result) =>
      (s.ran (reconcileResult platform.toEnv workspaceId runId result)).moved call.id none
  | .driving workspaceId runId approval, .driven (.error e) =>
      s.moved call.id
        (if approval = true ∧ e ≠ .cancelled then some (.restoring workspaceId runId) else none)
  | .restoring workspaceId runId, .next =>
      (s.ran (restoreWaiting platform.toEnv workspaceId runId)).moved call.id none
  | _, _ => s

/-- The calls of the service after a step of the runtime system: a crash ends them, and so
does the move to a restored database. -/
def survivors (s : Company) : Runtime.Label → List OrchestrationCall
  | .crash => []
  | .restore request =>
      match Runtime.restore request s.runtime.shared.world with
      | .ok _ _ => []
      | .error _ _ => s.calls
  | _ => s.calls

/-- One step of the system. -/
def step (platform : Platform) (s : Company) : Label → Company
  | .runtime label =>
      { s with runtime := s.runtime.step platform label, calls := s.survivors label }
  | .command host command => s.issue platform host command
  | .advance id answer =>
      match s.call? id with
      | some call => s.proceed platform call answer
      | none => s
  | .drop id => s.moved id none

theorem step_advance {platform : Platform} {s : Company} {id : Nat} {answer : Answer}
    {call : OrchestrationCall} (found : s.call? id = some call) :
    s.step platform (.advance id answer) = s.proceed platform call answer := by
  unfold step
  dsimp only
  rw [found]

theorem step_unknown {platform : Platform} {s : Company} {id : Nat} {answer : Answer}
    (unknown : s.call? id = none) : s.step platform (.advance id answer) = s := by
  unfold step
  dsimp only
  rw [unknown]

/-- A whole run from an empty database. -/
def after (platform : Platform) (labels : List Label) : Company :=
  labels.foldl (step platform) empty

end Company

end AgentCompanyOS.Orchestration
