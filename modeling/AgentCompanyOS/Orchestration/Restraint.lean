import AgentCompanyOS.Runtime.Standing
import AgentCompanyOS.Orchestration.Footprint

/-!
# What the service does to runs of closed goals

Whatever a transaction of the service does to agent runs it does through the runtime: it
starts a run, supplies context, or ends a run for a handoff. So a run of a goal that has
come to its end winds down in the steps of the service as it does in those of the runtime,
and the goal of every orchestration has at least been activated.
-/

set_option autoImplicit false

namespace AgentCompanyOS.Orchestration

open Foundation Foundation.Txn Domain AgentCompanyOS.Runtime

/-! ## The guarantee -/

/-- The guarantee of the transactions of the service. -/
def holding : Guarantee OrchestrationStore :=
  Guarantee.onStore (fun s s' => Restrained s.runtime s'.runtime) (fun _ => .refl _)
    fun first second => first.trans second

section Calls

variable {α : Type} {env : Env} {host : OrchestrationHost}

/-! ## Calls of the runtime -/

theorem holds_inRuntime {m : RuntimeTxn α} (hm : Moves restraining m) :
    Moves holding (inRuntime m) :=
  Moves.zoom hm fun _ _ _ _ restrained => restrained

theorem holds_inGoals {m : DomainTxn α} (env : Env) (command : Domain.Command)
    (same : command.issue env = discard m) : Moves holding (inGoals m) := by
  apply holds_inRuntime
  cases kind : commandKind command with
  | succeed =>
      have moved := moves_command (K := [.succeed]) .succeed env command kind same
      exact moves_restraining moved fun w =>
        .of_eq (frames_runs moved (by simp) (by simp) w).2
  | domain =>
      have moved := moves_command (K := [.domain]) .domain env command kind same
      exact moves_restraining moved fun w =>
        .of_eq (frames_runs moved (by simp) (by simp) w).2
  | _ => cases command <;> cases kind

theorem holds_startRun (platform : Platform) (host : Host) (command : StartCommand) :
    Moves holding (inRuntime (startRun platform.toEnv host command)) :=
  holds_inRuntime (moves_restraining (K := [.start, .audit])
    (moves_startRun platform.toEnv host command)
    fun _ => .of_txn (RollsBack.atomic _) startRun_held)

theorem holds_resumeRun (env : Env) (workspaceId : WorkspaceId) (runId : AgentRunId)
    (expected : Version) (context : SuppliedContext) :
    Moves holding (inRuntime (resumeRun env workspaceId runId expected context)) :=
  holds_inRuntime (moves_restraining (K := [.domain, .run, .audit])
    (moves_resumeRun env workspaceId runId expected context)
    fun _ => .of_txn (RollsBack.atomic _) resumeRun_held)

theorem holds_yieldForHandoff (env : Env) (workspaceId : WorkspaceId) (runId : AgentRunId)
    (expected : Version) :
    Moves holding (inRuntime (yieldForHandoff env workspaceId runId expected)) :=
  holds_inRuntime (moves_restraining (K := [.domain, .run, .audit])
    (moves_yieldForHandoff env workspaceId runId expected)
    fun _ => .of_txn (rollsBack_yieldForHandoff _ _ _ _) fun h =>
      .of_effect (yieldForHandoff_effect h) (by simp))

theorem holding_admits (platform : Platform) : Admits platform.toEnv holding where
  goals command same := holds_inGoals platform.toEnv command same
  start host command := holds_startRun platform host command
  resume := holds_resumeRun platform.toEnv
  yields := holds_yieldForHandoff platform.toEnv
  tables {f} same := .modifyStore fun w => by
    show Restrained w.store.runtime (f w.store).runtime
    rw [(same w.store).1]
    exact .refl _
  event {event} _ := (reads_checkOrchestrationEvent event).moves.bind fun _ =>
    .modifyStore fun w => by
      show Restrained w.store.runtime w.store.runtime
      exact .refl _

/-- No event changes the runtime store. -/
theorem holding_notes (platform : Platform) : Notes platform.toEnv holding := fun run extra =>
  (moves_fresh platform.toEnv _).bind fun _ => (moves_now platform.toEnv).bind fun _ =>
    (reads_checked _).moves.bind fun _ => (reads_checked _).moves.bind fun event =>
    (reads_checkOrchestrationEvent event).moves.bind fun _ => .modifyStore fun w => by
      show Restrained w.store.runtime w.store.runtime
      exact .refl _

end Calls

theorem holding_steady (platform : Platform) :
    Steady platform holding fun s s' => Restrained s.runtime s'.runtime where
  admits := holding_admits platform
  rel held := held
  refl _ := .refl _
  trans first second := first.trans second
  runtime s label := step_restrained s.runtime label

/-- What one step of the system does to the runs of closed goals. -/
theorem company_restrained {platform : Platform} {s : Company} (label : Label) :
    Restrained s.store.runtime (s.step platform label).store.runtime :=
  (holding_steady platform).step label fun _ => holding_notes platform

end AgentCompanyOS.Orchestration
