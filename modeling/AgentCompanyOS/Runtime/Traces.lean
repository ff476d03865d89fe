import AgentCompanyOS.Domain.Outcomes
import AgentCompanyOS.Runtime.Completion
import AgentCompanyOS.Runtime.Growth

/-!
# Runs, invocations and intents under their parents

What the write guards of the runtime store add up to over a whole history: a run stands
under an attempt of its workspace and execution, no two runs share an attempt and no two
open ones an execution, an invocation carries the lineage of its run, an action has one
intent, and an intent that is not claimed has no invocation.
-/

set_option autoImplicit false

namespace AgentCompanyOS.Runtime

open Foundation Foundation.Txn Domain

/-! ## Runs and their attempts -/

/-- Runs stand under attempts of their own, and open ones on executions of their own. -/
structure RunsApart (s : RuntimeStore) : Prop where
  parents : ∀ run ∈ s.runs.values, ∃ attempt,
    s.domain.attempts.get? run.taskAttemptId = some attempt ∧
    attempt.workspaceId = run.workspaceId ∧ attempt.executionId = run.executionId
  alone : ∀ a ∈ s.runs.values, ∀ b ∈ s.runs.values, a.taskAttemptId = b.taskAttemptId → a = b
  active : ∀ a ∈ s.runs.values, ∀ b ∈ s.runs.values, a.executionId = b.executionId →
    a.status.terminal = false → b.status.terminal = false → a = b

section Runs

variable {K : List Kind} {s s' : RuntimeStore}

/-- The attempt of a run stays its attempt. -/
theorem attempt_later {run : AgentRun} (extends' : Extends s.domain s'.domain)
    (h : ∃ attempt, s.domain.attempts.get? run.taskAttemptId = some attempt ∧
      attempt.workspaceId = run.workspaceId ∧ attempt.executionId = run.executionId) :
    ∃ attempt, s'.domain.attempts.get? run.taskAttemptId = some attempt ∧
      attempt.workspaceId = run.workspaceId ∧ attempt.executionId = run.executionId := by
  obtain ⟨attempt, found, workspace, execution⟩ := h
  obtain ⟨later, found, follows⟩ := extends'.attempts.later found
  have same := follows.origin
  simp only [TaskAttempt.origin, Prod.mk.injEq] at same
  exact ⟨later, found, same.2.1.trans workspace, same.2.2.2.1.trans execution⟩

theorem RunsApart.of_same (h : RunsApart s) (runs : s'.runs = s.runs)
    (extends' : Extends s.domain s'.domain) : RunsApart s' := by
  refine ⟨?_, ?_, ?_⟩
  · rw [runs]
    exact fun run mem => attempt_later extends' (h.parents run mem)
  · rw [runs]
    exact h.alone
  · rw [runs]
    exact h.active

theorem RunsApart.start (h : RunsApart s) {run : AgentRun} (startable : Startable s run)
    (runs : s'.runs = s.runs.put run) (domain : s'.domain = s.domain) : RunsApart s' := by
  refine ⟨?_, ?_, ?_⟩ <;> rw [runs]
  · intro other mem
    rw [domain]
    rcases Registry.mem_values_put.mp mem with rfl | ⟨old, -⟩
    · exact startable.attempt
    · exact h.parents other old
  · intro a memA b memB same
    rcases Registry.mem_values_put.mp memA with rfl | ⟨oldA, -⟩
    · rcases Registry.mem_values_put.mp memB with rfl | ⟨oldB, -⟩
      · rfl
      · exact (startable.alone b oldB same.symm).elim
    · rcases Registry.mem_values_put.mp memB with rfl | ⟨oldB, -⟩
      · exact (startable.alone a oldA same).elim
      · exact h.alone a oldA b oldB same
  · intro a memA b memB same openA openB
    rcases Registry.mem_values_put.mp memA with rfl | ⟨oldA, -⟩
    · rcases Registry.mem_values_put.mp memB with rfl | ⟨oldB, -⟩
      · rfl
      · rw [startable.inactive b oldB same.symm] at openB
        cases openB
    · rcases Registry.mem_values_put.mp memB with rfl | ⟨oldB, -⟩
      · rw [startable.inactive a oldA same] at openA
        cases openA
      · exact h.active a oldA b oldB same openA openB

theorem RunsApart.evolve (h : RunsApart s) {previous run : AgentRun}
    (present : s.runs.get? run.id = some previous) (origin : run.origin = previous.origin)
    (open' : previous.status.terminal = false) (runs : s'.runs = s.runs.put run)
    (domain : s'.domain = s.domain) : RunsApart s' := by
  have stored := Registry.mem_values_of_get? present
  have key : AgentRun.key previous = run.id := Registry.key_of_get? present
  simp only [AgentRun.origin, Prod.mk.injEq] at origin
  obtain ⟨-, workspace, execution, attempt, -⟩ := origin
  -- Whoever shares a parent with the changed run has shared it with the run before.
  have unique : ∀ other ∈ s.runs.values, other.id ≠ run.id → other ≠ previous := by
    rintro other - apart rfl
    exact apart key
  refine ⟨?_, ?_, ?_⟩ <;> rw [runs]
  · intro other mem
    rw [domain]
    rcases Registry.mem_values_put.mp mem with rfl | ⟨old, -⟩
    · rw [attempt, workspace, execution]
      exact h.parents previous stored
    · exact h.parents other old
  · intro a memA b memB same
    rcases Registry.mem_values_put.mp memA with rfl | ⟨oldA, apartA⟩
    · rcases Registry.mem_values_put.mp memB with rfl | ⟨oldB, apartB⟩
      · rfl
      · exact (unique b oldB apartB (h.alone b oldB previous stored
          (same.symm.trans attempt))).elim
    · rcases Registry.mem_values_put.mp memB with rfl | ⟨oldB, apartB⟩
      · exact (unique a oldA apartA (h.alone a oldA previous stored (same.trans attempt))).elim
      · exact h.alone a oldA b oldB same
  · intro a memA b memB same openA openB
    rcases Registry.mem_values_put.mp memA with rfl | ⟨oldA, apartA⟩
    · rcases Registry.mem_values_put.mp memB with rfl | ⟨oldB, apartB⟩
      · rfl
      · exact (unique b oldB apartB (h.active b oldB previous stored
          (same.symm.trans execution) openB open')).elim
    · rcases Registry.mem_values_put.mp memB with rfl | ⟨oldB, apartB⟩
      · exact (unique a oldA apartA (h.active a oldA previous stored (same.trans execution) openA
          open')).elim
      · exact h.active a oldA b oldB same openA openB

theorem Write.runsApart (write : Write K s s') (h : RunsApart s) : RunsApart s' := by
  have extends' := write.extends
  cases write with
  | start allowed _ run startable => exact h.start startable rfl rfl
  | run allowed _ previous run present evolved t =>
      exact h.evolve present evolved.origin_eq evolved.open rfl rfl
  | _ => exact h.of_same rfl extends'

end Runs

/-! ## Invocations -/

/-- An invocation stands under a run, with the run's parents, and its action is the run's. -/
structure CallOf (s : RuntimeStore) (i : ToolInvocation) (run : AgentRun) : Prop where
  stored : s.runs.get? i.runId = some run
  workspace : i.workspaceId = run.workspaceId
  attempt : i.taskAttemptId = run.taskAttemptId
  execution : i.executionId = run.executionId
  action : ∃ action, s.actions.get? i.actionId = some action ∧ action.runId = i.runId

/-- Every invocation stands under a stored run. -/
def CallsTraced (s : RuntimeStore) : Prop :=
  ∀ i ∈ s.toolInvocations.values, ∃ run, CallOf s i run

section Calls

variable {platform : Platform} {K : List Kind} {s s' : RuntimeStore}

/-- Actions are never replaced. -/
theorem Write.actions_kept (write : Write K s s') : s.actions.Evolves Eq s'.actions := by
  cases write with
  | action allowed _ action absent => exact .put_new (fun _ => rfl) absent
  | _ => exact .refl (fun _ => rfl) _

theorem Write.tools_kept (write : Write K s s') : SameTools s.tools s'.tools := by
  cases write with
  | config allowed _ c tools => exact tools
  | _ => exact sameTools_refl _

theorem CallOf.later {i : ToolInvocation} {run : AgentRun} (h : CallOf s i run)
    (runs : s.runs.Evolves AgentRun.Later s'.runs) (actions : s.actions.Evolves Eq s'.actions) :
    ∃ run', CallOf s' i run' := by
  obtain ⟨later, found, follows⟩ := runs.later h.stored
  obtain ⟨action, stored, own⟩ := h.action
  obtain ⟨_, stored, rfl⟩ := actions.later stored
  have origin := follows.origin
  simp only [AgentRun.origin, Prod.mk.injEq] at origin
  obtain ⟨-, workspace, execution, attempt, -⟩ := origin
  exact ⟨later, found, h.workspace.trans workspace.symm, h.attempt.trans attempt.symm,
    h.execution.trans execution.symm, action, stored, own⟩

/-- The lineage of an invocation is in the fields that a receipt leaves alone. -/
theorem CallOf.of_fields {i j : ToolInvocation} {run : AgentRun} (h : CallOf s i run)
    (same : (j.runId, j.workspaceId, j.taskAttemptId, j.executionId, j.actionId) =
      (i.runId, i.workspaceId, i.taskAttemptId, i.executionId, i.actionId)) : CallOf s j run := by
  simp only [Prod.mk.injEq] at same
  obtain ⟨runId, workspace, attempt, execution, action⟩ := same
  exact ⟨runId ▸ h.stored, workspace.trans h.workspace, attempt.trans h.attempt,
    execution.trans h.execution, by rw [action, runId]; exact h.action⟩

theorem ReceiptStorable.fields {previous : ToolInvocation} {receipt : ToolReceipt}
    (h : ReceiptStorable s previous receipt) :
    (receipt.invocation.runId, receipt.invocation.workspaceId, receipt.invocation.taskAttemptId,
      receipt.invocation.executionId, receipt.invocation.actionId) = (previous.runId,
      previous.workspaceId, previous.taskAttemptId, previous.executionId, previous.actionId) := by
  obtain ⟨at', fields⟩ := h.finished
  rw [fields]

theorem Write.callsTraced (write : Write K s s') (h : CallsTraced s) : CallsTraced s' := by
  intro j mem
  have traced : ∃ run, CallOf s j run := by
    cases write with
    | invocation allowed _ run action i foundRun foundAction new =>
        rcases Registry.mem_values_put.mp mem with rfl | ⟨old, -⟩
        · obtain ⟨own, attempt, execution, -, scope, -⟩ := new
          have runKey : AgentRun.key run = j.runId := Registry.key_of_get? foundRun
          exact ⟨run, foundRun, j.valid.scope.symm.trans scope, attempt, execution, action,
            foundAction, own.trans runKey⟩
        · exact h j old
    | receipt allowed _ previous receipt storable =>
        rcases Registry.mem_values_put.mp mem with rfl | ⟨old, -⟩
        · obtain ⟨run, call⟩ := h previous (Registry.mem_values_of_get? storable.present)
          exact ⟨run, call.of_fields storable.fields⟩
        · exact h j old
    | _ => exact h j mem
  obtain ⟨run, call⟩ := traced
  exact call.later write.grown.runs write.actions_kept

end Calls

/-! ## Intents -/

/-- An action has one intent. -/
def OneIntent (s : RuntimeStore) : Prop :=
  ∀ g ∈ s.governed.values, ∀ g' ∈ s.governed.values,
    g.intent.actionId = g'.intent.actionId → g = g'

section Intents

variable {K : List Kind} {s s' : RuntimeStore}

/-- A record saved over the one with its intent. -/
theorem OneIntent.put (h : OneIntent s) {old record : GovernedAction}
    (present : s.governed.get? record.intent.id = some old) (intent : record.intent = old.intent)
    (governed : s'.governed = s.governed.put record) : OneIntent s' := by
  have stored := Registry.mem_values_of_get? present
  have apart : ∀ g ∈ s.governed.values, GovernedAction.key g ≠ GovernedAction.key record →
      g.intent.actionId ≠ record.intent.actionId := by
    intro g mem other same
    rw [intent] at same
    obtain rfl := h g mem old stored same
    exact other (congrArg ActionIntent.id intent.symm)
  intro g mem g' mem' same
  rw [governed] at mem mem'
  rcases Registry.mem_values_put.mp mem with rfl | ⟨oldG, other⟩
  · rcases Registry.mem_values_put.mp mem' with rfl | ⟨oldG', other'⟩
    · rfl
    · exact (apart g' oldG' other' same.symm).elim
  · rcases Registry.mem_values_put.mp mem' with rfl | ⟨oldG', other'⟩
    · exact (apart g oldG other same).elim
    · exact h g oldG g' oldG' same

theorem Write.oneIntent (write : Write K s s') (h : OneIntent s) : OneIntent s' := by
  cases write with
  | prepare allowed _ record absent savable =>
      have history := savable.history
      rw [absent] at history
      obtain ⟨-, -, -, -, -, -, -, -, unused⟩ := history
      have fresh : ∀ g ∈ s.governed.values, g.intent.actionId ≠ record.intent.actionId :=
        fun g mem same => List.any_eq_false.mp unused g mem (decide_eq_true same)
      intro g mem g' mem' same
      rcases Registry.mem_values_put.mp mem with rfl | ⟨oldG, -⟩
      · rcases Registry.mem_values_put.mp mem' with rfl | ⟨oldG', -⟩
        · rfl
        · exact (fresh g' oldG' same.symm).elim
      · rcases Registry.mem_values_put.mp mem' with rfl | ⟨oldG', -⟩
        · exact (fresh g oldG same).elim
        · exact h g oldG g' oldG' same
  | review allowed _ old record present history kept => exact h.put present history.1 rfl
  | claim allowed _ old record present history => exact h.put present history.1 rfl
  | _ => exact h

end Intents

/-! ## The lineage of a store -/

/-- The lineage laws of a reachable store. -/
structure Traced (s : RuntimeStore) : Prop where
  linked : Linked s.domain
  runs : RunsApart s
  calls : CallsTraced s
  intents : OneIntent s
  receipts : ReceiptsAgree s

section Traces

variable {platform : Platform} {K : List Kind} {s s' : RuntimeStore}

theorem Traced.empty : Traced .empty := by
  refine ⟨linked_empty, ⟨?_, ?_, ?_⟩, ?_, ?_, ⟨?_, ?_, ?_⟩⟩ <;> exact fun _ mem =>
    (List.not_mem_nil mem).elim

theorem Write.traced (write : Write K s s') (h : Traced s) : Traced s' where
  linked := by
    cases write with
    | domain command allowed _ d served => exact h.linked.serve served
    | _ => exact h.linked
  runs := write.runsApart h.runs
  calls := write.callsTraced h.calls
  intents := write.oneIntent h.intents
  receipts := h.receipts.change write.receiptChange

/-- The operational tables have no part in the lineage. -/
theorem Traced.operated (h : Traced s) (change : Operated s s') : Traced s' := by
  obtain ⟨o, same⟩ := change.tables
  subst same
  refine ⟨h.linked, h.runs.of_same rfl (.refl _), ?_, h.intents,
    ReceiptsAgree.change (s := s) (.same rfl rfl) h.receipts⟩
  intro i mem
  obtain ⟨run, call⟩ := h.calls i mem
  exact ⟨run, call.stored, call.workspace, call.attempt, call.execution, call.action⟩

theorem Traced.step {s : Sys} (h : Traced s.store) (label : Label) :
    Traced (s.step platform label).store := by
  rcases step_writes platform s label with moved | change
  · exact writes_induct Write.traced moved h
  · exact h.operated change

end Traces

/-! ## Intents and the calls that claim them -/

/-- Every intent is that of a message which its run asked for, and the action of an unclaimed
one has no invocation. -/
structure Asked (s : RuntimeStore) : Prop where
  called : ∀ g ∈ s.governed.values, ∃ run, s.runs.get? g.intent.runId = some run ∧
    Called s run g.intent
  unused : ∀ g ∈ s.governed.values, g.invocationId = none →
    ∀ i ∈ s.toolInvocations.values, i.actionId ≠ g.intent.actionId

section Asking

variable {platform : Platform} {K : List Kind} {s s' : RuntimeStore}

theorem Asked.empty : Asked .empty := by
  refine ⟨?_, ?_⟩ <;> exact fun _ mem => (List.not_mem_nil mem).elim

theorem Called.later {intent : ActionIntent}
    (h : ∃ run, s.runs.get? intent.runId = some run ∧ Called s run intent)
    (runs : s.runs.Evolves AgentRun.Later s'.runs) (actions : s.actions.Evolves Eq s'.actions)
    (tools : SameTools s.tools s'.tools) :
    ∃ run, s'.runs.get? intent.runId = some run ∧ Called s' run intent := by
  obtain ⟨run, found, workspace, called, ⟨r, registered, version⟩⟩ := h
  obtain ⟨later, found, follows⟩ := runs.later found
  obtain ⟨action, toolId, raw, request, stored, own, decision, grant, valid, message⟩ := called
  obtain ⟨_, stored, rfl⟩ := actions.later stored
  obtain ⟨r', registered, kept⟩ := tools.later registered
  have origin := follows.origin
  simp only [AgentRun.origin, Prod.mk.injEq] at origin
  obtain ⟨id, sameWorkspace, -, -, -, -, definition, -⟩ := origin
  exact ⟨later, found, workspace.trans sameWorkspace.symm, ⟨action, toolId, raw, request, stored,
    own.trans id.symm, decision, by rw [definition]; exact grant, valid, message⟩,
    r', registered, kept.trans version⟩

/-- What no write of the store takes back. -/
theorem writes_kept (moved : Relation.ReflTransGen (Write K) s s') :
    s.actions.Evolves Eq s'.actions ∧ SameTools s.tools s'.tools := by
  refine writes_induct (P := fun t => s.actions.Evolves Eq t.actions ∧ SameTools s.tools t.tools)
    ?_ moved ⟨.refl (fun _ => rfl) _, sameTools_refl _⟩
  intro t t' write kept
  exact ⟨Registry.Evolves.trans (R := Eq) Eq.trans kept.1 write.actions_kept,
    Registry.Evolves.trans (R := ToolRegistration.Kept) (fun h h' => h'.trans h) kept.2
      write.tools_kept⟩

theorem step_kept (s : Sys) (label : Label) :
    s.store.actions.Evolves Eq (s.step platform label).store.actions ∧
      SameTools s.store.tools (s.step platform label).store.tools := by
  rcases step_writes platform s label with moved | change
  · exact writes_kept moved
  · obtain ⟨o, same⟩ := change.tables
    rw [same]
    exact ⟨.refl (fun _ => rfl) _, sameTools_refl _⟩

/-- An invocation after a step was there under its action, or the step dispatched it. -/
theorem step_invocations (s : Sys) (label : Label) {i : ToolInvocation}
    (mem : i ∈ (s.step platform label).store.toolInvocations.values) :
    (∃ old ∈ s.store.toolInvocations.values, old.actionId = i.actionId) ∨
      ∃ host runId expected d governed v w', w'.store = (s.step platform label).store ∧
        Dispatched platform host runId expected s.shared.world v w' d governed ∧
        i.actionId = d.action.id := by
  have writes : ∀ {s' : RuntimeStore},
      Relation.ReflTransGen (Write ordinaryKinds) s.store s' →
      ∀ i ∈ s'.toolInvocations.values,
        ∃ old ∈ s.store.toolInvocations.values, old.actionId = i.actionId := by
    intro s' moved
    refine writes_induct (P := fun t => ∀ i ∈ t.toolInvocations.values,
      ∃ old ∈ s.store.toolInvocations.values, old.actionId = i.actionId) ?_ moved
      fun i mem => ⟨i, mem, rfl⟩
    intro t t' write ih i mem
    cases write with
    | invocation allowed => simp at allowed
    | receipt allowed _ previous receipt storable =>
        rcases Registry.mem_values_put.mp mem with rfl | ⟨old, -⟩
        · have same := storable.fields
          simp only [Prod.mk.injEq] at same
          rw [same.2.2.2.2]
          exact ih previous (Registry.mem_values_of_get? storable.present)
        · exact ih i old
    | _ => exact ih i mem
  cases step_effect platform s label with
  | wrote later moved => exact .inl (writes moved i mem)
  | dispatched later host runId expected d governed v facts =>
      have review : v.store.toolInvocations = s.store.toolInvocations :=
        writes_frame (fun write => write.toolInvocations_eq (by simp) (by simp)) facts.review
      rw [show (s.step platform label).store.toolInvocations = v.store.toolInvocations.put
        d.invocation from facts.claimed.invocations, review] at mem
      rcases Registry.mem_values_put.mp mem with rfl | ⟨old, -⟩
      · exact .inr ⟨host, runId, expected, d, governed, v, _, rfl, facts, facts.claimed.binding.1⟩
      · exact .inl ⟨i, old, rfl⟩
  | operated later change =>
      obtain ⟨o, same⟩ := change.tables
      rw [show (s.step platform label).store = s.store.operated o from same] at mem
      exact .inl ⟨i, mem, rfl⟩

/-- A call that reads and one that a record was prepared for are not calls of one action. -/
theorem Called.not_reading {host : Host} {runId : AgentRunId} {expected : Version}
    {w v w' : World RuntimeStore} {d : Dispatch} {governed : Option GovernedAction}
    (facts : Dispatched platform host runId expected w v w' d governed)
    {intent : ActionIntent} {run : AgentRun} (stored : w.store.runs.get? intent.runId = some run)
    (called : Called w.store run intent) (same : d.action.id = intent.actionId) :
    d.invocation.validatedInput.isFixtureMessage = true := by
  obtain ⟨action, toolId, raw, request, found, own, decision, grant, valid, message⟩ :=
    called.action
  obtain ⟨toolId', raw', decision', grant', valid'⟩ := facts.input
  rw [← same, facts.action] at found
  obtain rfl := Option.some.inj found
  obtain ⟨rfl, rfl⟩ : toolId' = toolId ∧ raw' = raw := by
    rw [decision] at decision'
    cases decision'
    exact ⟨rfl, rfl⟩
  -- The action belongs to one run, whose grants never change.
  have runKey : AgentRun.key run = intent.runId := Registry.key_of_get? stored
  have runKey' : AgentRun.key d.run = runId := Registry.key_of_get? facts.run
  obtain rfl : run = d.run := by
    have sameRun : intent.runId = runId := by
      rw [← runKey, ← runKey']
      exact own.symm.trans facts.actionRun
    rw [sameRun, facts.run] at stored
    exact (Option.some.inj stored).symm
  rw [grant] at grant'
  obtain ⟨r, registered, version⟩ := called.tool
  obtain ⟨r', registered', version'⟩ := facts.tool
  rw [← Option.some.inj grant', registered] at registered'
  obtain rfl := Option.some.inj registered'
  rw [← version', version, valid] at valid'
  rw [← Except.ok.inj valid']
  exact message

/-- A dispatched call claims the record of its action. -/
theorem Dispatched.claims {host : Host} {runId : AgentRunId} {expected : Version}
    {w v w' : World RuntimeStore} {d : Dispatch} {governed : Option GovernedAction}
    (facts : Dispatched platform host runId expected w v w' d governed)
    (intents : OneIntent w'.store) {g : GovernedAction} (mem : g ∈ w'.store.governed.values)
    (called : ∃ run, w.store.runs.get? g.intent.runId = some run ∧ Called w.store run g.intent)
    (same : d.action.id = g.intent.actionId) : g.invocationId ≠ none := by
  obtain ⟨run, stored, called⟩ := called
  have message := called.not_reading facts stored same
  have grant := facts.grant
  have recorded := facts.claimed.governed
  cases grant with
  | reading risk quiet unchanged =>
      rw [message] at quiet
      cases quiet
  | reviewed record granted =>
      obtain ⟨claimed, fields, after⟩ := recorded
      have intent : claimed.intent = record.intent :=
        (congrArg GovernedFields.intent fields).trans rfl
      have here : claimed ∈ w'.store.governed.values := by
        rw [after]
        exact Registry.mem_values_put.mpr (.inl rfl)
      obtain ⟨-, action, -⟩ := granted.prepared.call
      obtain rfl : g = claimed := by
        refine intents g mem claimed here ?_
        rw [intent, ← same]
        exact action.symm
      rw [show g.invocationId = some d.invocation.id from
        (congrArg GovernedFields.invocationId fields).trans rfl]
      exact Option.some_ne_none _

theorem Asked.step {s : Sys} (traced : Traced s.store) (h : Asked s.store) (label : Label) :
    Asked (s.step platform label).store := by
  obtain ⟨actions, tools⟩ := @step_kept platform s label
  -- The intent of a record was asked for before the step, and then it was not used.
  have before : ∀ g ∈ (s.step platform label).store.governed.values,
      (∃ run, s.store.runs.get? g.intent.runId = some run ∧ Called s.store run g.intent) ∧
      (g.invocationId = none →
        ∀ i ∈ s.store.toolInvocations.values, i.actionId ≠ g.intent.actionId) := by
    intro g mem
    rcases step_governed s label g mem with ⟨old, memOld, intent, claim⟩ | new
    · rw [← intent]
      refine ⟨h.called old memOld, fun unclaimed => h.unused old memOld ?_⟩
      by_contra claimed
      exact claimed ((claim claimed).symm.trans unclaimed)
    · obtain ⟨run, stored, -, called⟩ := new.run
      refine ⟨⟨run, stored, called⟩, fun _ i memI same => new.unused i memI ?_ same⟩
      obtain ⟨_, call⟩ := traced.calls i memI
      obtain ⟨action, found, own⟩ := call.action
      obtain ⟨other, _, _, _, foundOther, ownOther, -⟩ := called.action
      rw [← same, found] at foundOther
      obtain rfl := Option.some.inj foundOther
      have runKey : AgentRun.key run = g.intent.runId := Registry.key_of_get? stored
      exact own.symm.trans (ownOther.trans runKey)
  refine ⟨fun g mem => ?_, fun g mem unclaimed i memI same => ?_⟩
  · exact Called.later (before g mem).1 (step_grown platform s label).runs actions tools
  · rcases step_invocations s label memI with ⟨old, memOld, ofAction⟩ |
        ⟨host, runId, expected, d, governed, v, w', store, facts, ofAction⟩
    · exact (before g mem).2 unclaimed old memOld (ofAction.trans same)
    · have intents : OneIntent w'.store := store ▸ (traced.step label).intents
      exact facts.claims intents (store ▸ mem) (before g mem).1 (ofAction.symm.trans same) unclaimed

/-- The kinds of writes that neither govern nor claim a call. -/
def serviceKinds : List Kind := [.domain, .succeed, .start, .run, .audit]

theorem Write.asked (write : Write serviceKinds s s') (h : Asked s) : Asked s' := by
  have governed : s'.governed = s.governed :=
    write.governed_eq (by decide) (by decide) (by decide)
  have invocations : s'.toolInvocations = s.toolInvocations :=
    write.toolInvocations_eq (by decide) (by decide)
  refine ⟨?_, ?_⟩
  · rw [governed]
    exact fun g mem => Called.later (h.called g mem) write.grown.runs write.actions_kept
      write.tools_kept
  · rw [governed, invocations]
    exact h.unused

end Asking

end AgentCompanyOS.Runtime
