import AgentCompanyOS.Runtime.Traces
import AgentCompanyOS.Orchestration.Footprint

/-!
# What the service writes in the runtime store

A transaction of the service changes the runtime store by domain commands, and by starting
and saving runs: it governs no call and claims none. So what these writes keep, and the
steps of the runtime keep, holds of the runtime store after every history of the system.
-/

set_option autoImplicit false

namespace AgentCompanyOS.Orchestration

open Foundation Foundation.Txn Domain AgentCompanyOS.Runtime

/-- The guarantee of the transactions of the service. -/
def serving : Guarantee OrchestrationStore :=
  Guarantee.onStore (fun s s' => Relation.ReflTransGen (Write serviceKinds) s.runtime s'.runtime)
    (fun _ => .refl) fun first second => first.trans second

section Calls

variable {α : Type} {env : Env}

theorem serves_inRuntime {K : List Kind} {m : RuntimeTxn α} (wider : ∀ k ∈ K, k ∈ serviceKinds)
    (hm : Moves (writes K) m) : Moves serving (inRuntime m) :=
  Moves.zoom (moves_widen wider hm) fun _ _ _ _ moved => moved

theorem serves_inGoals {m : DomainTxn α} (env : Env) (command : Domain.Command)
    (same : command.issue env = discard m) : Moves serving (inGoals m) := by
  have allowed : commandKind command ∈ serviceKinds := by
    cases command <;> simp [commandKind, serviceKinds]
  exact serves_inRuntime (K := serviceKinds) (fun _ mem => mem)
    (moves_inDomain allowed (Moves.of_discard (same ▸ moves_served env command)))

theorem serving_admits (env : Env) : Admits env serving where
  goals command same := serves_inGoals env command same
  start host command :=
    serves_inRuntime (K := [.start, .audit]) (by decide) (moves_startRun env host command)
  resume workspaceId runId expected context :=
    serves_inRuntime (K := [.domain, .run, .audit]) (by decide)
      (moves_resumeRun env workspaceId runId expected context)
  yields workspaceId runId expected :=
    serves_inRuntime (K := [.domain, .run, .audit]) (by decide)
      (moves_yieldForHandoff env workspaceId runId expected)
  tables {f} same := .modifyStore fun w => by
    show Relation.ReflTransGen _ w.store.runtime (f w.store).runtime
    rw [(same w.store).1]
  event {event} _ := (reads_checkOrchestrationEvent event).moves.bind fun _ =>
    .modifyStore fun _ => .refl

/-- No event changes the runtime store. -/
theorem serving_notes (env : Env) : Notes env serving := fun _ _ =>
  (moves_fresh env _).bind fun _ => (moves_now env).bind fun _ =>
    (reads_checked _).moves.bind fun _ => (reads_checked _).moves.bind fun event =>
    (reads_checkOrchestrationEvent event).moves.bind fun _ => .modifyStore fun _ => .refl

end Calls

section Histories

variable {platform : Platform} {P : RuntimeStore → Prop}

/-- A predicate that the writes of the service and the steps of the runtime keep. -/
structure KeptByRuntime (platform : Platform) (P : RuntimeStore → Prop) : Prop where
  write : ∀ {s s' : RuntimeStore}, Write serviceKinds s s' → P s → P s'
  step : ∀ {s : Sys} (label : Runtime.Label), P s.store → P (s.step platform label).store

theorem KeptByRuntime.steady (h : KeptByRuntime platform P) :
    Steady platform serving fun s s' => P s.runtime → P s'.runtime where
  admits := serving_admits platform.toEnv
  rel moved holds := writes_induct h.write moved holds
  refl _ holds := holds
  trans first second holds := second (first holds)
  runtime s label := h.step (s := s.runtime) label

/-- What holds of an empty runtime store, and is kept, holds after every history. -/
theorem KeptByRuntime.after (h : KeptByRuntime platform P) (empty : P .empty)
    (labels : List Label) : P (Company.after platform labels).store.runtime :=
  after_invariant platform (P := fun c => P c.store.runtime) empty
    (fun label _ holds => h.steady.step label (fun _ => serving_notes platform.toEnv) holds)
    labels

end Histories

end AgentCompanyOS.Orchestration
