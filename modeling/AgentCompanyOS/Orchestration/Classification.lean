import AgentCompanyOS.Foundation.Looking
import AgentCompanyOS.Orchestration.Store
import AgentCompanyOS.Runtime.Recovery

/-!
# Recovery classification

`RecoveryService.classify` lists what a workspace has left unfinished: five scans of the
stores, one transaction. The reasons of the cases depend on the clock; their subjects and
outcomes do not, and are the `Finding`s of the store.
-/

set_option autoImplicit false

namespace AgentCompanyOS.Orchestration

open Foundation Foundation.Txn Domain AgentCompanyOS.Runtime

/-! ## Cases -/

/-- The subject types that a classification names. -/
inductive RecoverySubject where
  | agentRun | taskAttempt | execution | actionIntent | toolInvocation | orchestrationRun
deriving DecidableEq

def RecoverySubject.value : RecoverySubject → PyStr
  | agentRun => py "agent_run"
  | taskAttempt => py "task_attempt"
  | execution => py "execution"
  | actionIntent => py "action_intent"
  | toolInvocation => py "tool_invocation"
  | orchestrationRun => py "orchestration_run"

/-- A `RecoveryCase` of a classification. -/
structure ClassifiedCase where
  workspaceId : WorkspaceId
  subjectType : RecoverySubject
  subjectId : PyStr
  reason : RecoveryReason
  outcome : RecoveryOutcome
deriving DecidableEq

/-- The key that the cases are sorted by. -/
def ClassifiedCase.key (c : ClassifiedCase) : RecoverySubject × PyStr :=
  (c.subjectType, c.subjectId)

/-- The order of the keys. -/
def caseLe (a b : ClassifiedCase) : Bool :=
  if a.subjectType = b.subjectType then Json.textLe a.subjectId b.subjectId
  else Json.textLe a.subjectType.value b.subjectType.value

/-- `sorted(set(cases), key=...)`. -/
def sortedCases (cases : List ClassifiedCase) : List ClassifiedCase :=
  cases.dedup.insertionSort fun a b => caseLe a b = true

/-! ## The runs that have not ended -/

def activeRun (run : AgentRun) : Bool := run.status = .running || run.status = .waiting

def runReason (env : Env) (run : AgentRun) : RuntimeTxn RecoveryReason := do
  let at' ← now env
  pure (if run.deadline ≤ at' then .expired
    else if run.status = .waiting then
      if run.workingState.invocationPending = true then .awaitingApproval else .resumeLocal
    else if run.workingState.invocationPending = true then .manualReview
    else .resumeLocal)

/-- What the calls of a run say about it. -/
def runOutcome (calls : List ToolInvocation) : RecoveryOutcome :=
  if calls = [] then .notExecuted else .outcomeUnknown

/-- The cases of a run, its attempt and its execution. -/
def runCases (env : Env) (workspaceId : WorkspaceId) (run : AgentRun) :
    RuntimeTxn (List ClassifiedCase) :=
  if activeRun run = true then do
    let reason ← runReason env run
    let calls ← toolInvocations workspaceId run.id
    let outcome := runOutcome calls
    pure [⟨workspaceId, .agentRun, run.id.value, reason, outcome⟩,
      ⟨workspaceId, .taskAttempt, run.taskAttemptId.value, reason, outcome⟩,
      ⟨workspaceId, .execution, run.executionId.value, reason, outcome⟩]
  else pure []

/-! ## The intents that are not claimed -/

def intentReason (env : Env) (workspaceId : WorkspaceId) (record : GovernedAction) :
    RuntimeTxn RecoveryReason :=
  if record.cancelled = true then pure .cancelled
  else do
    let at' ← now env
    if record.intent.expiresAt ≤ at' then pure .expired
    else do
      let held ← intentHeld workspaceId record.intent.id
      if held = true ∨ ∃ last ∈ record.decisions.getLast?, last.kind ≠ .approved then
        pure .manualReview
      else do
        let mode ← operationalMode workspaceId
        -- An old snapshot cannot know if remote effects followed it.
        pure (if mode = .restoreQuarantine then .manualReview else .awaitingApproval)

def intentOutcome (held : Bool) : RecoveryOutcome :=
  if held = true then .outcomeUnknown else .notExecuted

def intentCases (env : Env) (workspaceId : WorkspaceId) (record : GovernedAction) :
    RuntimeTxn (List ClassifiedCase) :=
  if record.invocationId = none then do
    let reason ← intentReason env workspaceId record
    let held ← intentHeld workspaceId record.intent.id
    pure [⟨workspaceId, .actionIntent, record.intent.id.value, reason, intentOutcome held⟩]
  else pure []

/-! ## The calls -/

/-- The receipt that a dictionary of the receipts has for an invocation. -/
def receiptOf (receipts : List ToolReceipt) (i : ToolInvocation) : Option ToolReceipt :=
  receipts.reverse.find? (·.invocation.id = i.id)

def callCase (workspaceId : WorkspaceId) (run : AgentRun) (receipts : List ToolReceipt)
    (i : ToolInvocation) : List ClassifiedCase :=
  match receiptOf receipts i with
  | none => [⟨workspaceId, .toolInvocation, i.id.value,
      if i.toolVersion.definition.risk = .readOnly then .safeToRetry else .connectorRequired,
      .outcomeUnknown⟩]
  | some receipt =>
      if receipt.remoteOutcome = .unknown then
        [⟨workspaceId, .toolInvocation, i.id.value, .terminalUnknown, .outcomeUnknown⟩]
      else if run.workingState.invocationPending = true then
        [⟨workspaceId, .toolInvocation, i.id.value, .resumeLocal,
          if receipt.output.isSome = true then .observedSuccess else .observedFailure⟩]
      else []

/-- The cases of the calls of a run, ended or not: cancellation does not establish the
remote outcome. -/
def callCases (workspaceId : WorkspaceId) (run : AgentRun) : RuntimeTxn (List ClassifiedCase) := do
  let receipts ← toolReceipts workspaceId run.id
  let calls ← toolInvocations workspaceId run.id
  pure (calls.flatMap (callCase workspaceId run receipts))

/-! ## The parents without a case -/

/-- The status values of what has not ended. -/
def openValues : List PyStr := [py "running", py "waiting", py "planning", py "created"]

/-- The case of a record that is not represented, given by its identifier and status value. -/
def gapCase (workspaceId : WorkspaceId) (represented : List (RecoverySubject × PyStr))
    (kind : RecoverySubject) (item : PyStr × PyStr) : List ClassifiedCase :=
  if (kind, item.1) ∉ represented ∧ item.2 ∈ openValues then
    [⟨workspaceId, kind, item.1, .resumeLocal, .outcomeUnknown⟩]
  else []

/-- `executions`. -/
def listExecutions (workspaceId : WorkspaceId) : DomainTxn (List Execution) := do
  let _ ← getWorkspace workspaceId
  let store ← getStore
  pure (store.executions.values.filter (·.workspaceId = workspaceId))

/-- `task_attempts`. -/
def listAttempts (workspaceId : WorkspaceId) : DomainTxn (List TaskAttempt) := do
  let _ ← getWorkspace workspaceId
  let store ← getStore
  pure (store.attempts.values.filter (·.workspaceId = workspaceId))

/-- `runs` of the orchestration store. -/
def listOrchestrationRuns (workspaceId : WorkspaceId) :
    OrchestrationTxn (List OrchestrationRun) := do
  let _ ← inGoals (getWorkspace workspaceId)
  let store ← getStore
  pure (store.runs.values.filter (·.workspaceId = workspaceId))

/-- The orchestration runs of an attached service. -/
def attachedRuns (attached : Bool) (workspaceId : WorkspaceId) :
    OrchestrationTxn (List OrchestrationRun) :=
  if attached = true then listOrchestrationRuns workspaceId else pure []

/-! ## The report -/

/-- The cases of the scans that look for unfinished work. -/
def scanned (env : Env) (workspaceId : WorkspaceId) : RuntimeTxn (List ClassifiedCase) := do
  let runs ← listRuns workspaceId
  let active ← gather runs (runCases env workspaceId)
  let records ← governedActions workspaceId
  let intents ← gather records (intentCases env workspaceId)
  let runs ← listRuns workspaceId
  let calls ← gather runs (callCases workspaceId)
  pure (active ++ intents ++ calls)

/-- `classify`; the service may be attached to an orchestration store. -/
def classify (env : Env) (attached : Bool) (workspaceId : WorkspaceId) :
    OrchestrationTxn (List ClassifiedCase) := do
  let cases ← atomic do
    let cases ← inRuntime (scanned env workspaceId)
    let represented := cases.map ClassifiedCase.key
    let executions ← inGoals (listExecutions workspaceId)
    let attempts ← inGoals (listAttempts workspaceId)
    let runs ← attachedRuns attached workspaceId
    pure (cases ++
      (executions.flatMap fun e =>
        gapCase workspaceId represented .execution (e.id.value, e.status.value.val)) ++
      (attempts.flatMap fun a =>
        gapCase workspaceId represented .taskAttempt (a.id.value, a.status.value.val)) ++
      (runs.flatMap fun r =>
        gapCase workspaceId represented .orchestrationRun (r.id.value, r.status.value)))
  pure (sortedCases cases)

/-! ## What it finds -/

/-- The workspace, the subject and the outcome of a case. -/
abbrev Finding := WorkspaceId × (RecoverySubject × PyStr) × RecoveryOutcome

/-- What a case says, its reason apart. -/
def ClassifiedCase.finding (c : ClassifiedCase) : Finding := (c.workspaceId, c.key, c.outcome)

/-- The calls and the receipts of a run. -/
def callsOf (s : RuntimeStore) (runId : AgentRunId) : List ToolInvocation :=
  s.toolInvocations.values.filter (·.runId = runId)

def receiptsOf (s : RuntimeStore) (runId : AgentRunId) : List ToolReceipt :=
  s.toolReceipts.values.filter (·.invocation.runId = runId)

def runFindings (s : RuntimeStore) (workspaceId : WorkspaceId) (run : AgentRun) : List Finding :=
  if activeRun run = true then
    [(workspaceId, (.agentRun, run.id.value), runOutcome (callsOf s run.id)),
      (workspaceId, (.taskAttempt, run.taskAttemptId.value), runOutcome (callsOf s run.id)),
      (workspaceId, (.execution, run.executionId.value), runOutcome (callsOf s run.id))]
  else []

def intentFindings (s : RuntimeStore) (workspaceId : WorkspaceId) (record : GovernedAction) :
    List Finding :=
  if record.invocationId = none then
    [(workspaceId, (.actionIntent, record.intent.id.value),
      intentOutcome (s.held workspaceId record.intent.id))]
  else []

def callFindings (s : RuntimeStore) (workspaceId : WorkspaceId) (run : AgentRun) : List Finding :=
  ((callsOf s run.id).flatMap (callCase workspaceId run (receiptsOf s run.id))).map
    ClassifiedCase.finding

/-- The runs and the governed actions of a workspace. -/
def runsIn (s : RuntimeStore) (workspaceId : WorkspaceId) : List AgentRun :=
  s.runs.values.filter (·.workspaceId = workspaceId)

def recordsIn (s : RuntimeStore) (workspaceId : WorkspaceId) : List GovernedAction :=
  s.governed.values.filter (·.intent.workspaceId = workspaceId)

/-- The findings of the scans. -/
def scannedFindings (s : RuntimeStore) (workspaceId : WorkspaceId) : List Finding :=
  (runsIn s workspaceId).flatMap (runFindings s workspaceId) ++
    (recordsIn s workspaceId).flatMap (intentFindings s workspaceId) ++
    (runsIn s workspaceId).flatMap (callFindings s workspaceId)

/-- The parents that have not ended: their keys and status values. -/
def parentsIn (s : OrchestrationStore) (attached : Bool) (workspaceId : WorkspaceId) :
    List ((RecoverySubject × PyStr) × PyStr) :=
  (s.runtime.domain.executions.values.filter (·.workspaceId = workspaceId)).map
      (fun e => ((.execution, e.id.value), e.status.value.val)) ++
    (s.runtime.domain.attempts.values.filter (·.workspaceId = workspaceId)).map
      (fun a => ((.taskAttempt, a.id.value), a.status.value.val)) ++
    (if attached = true then s.runs.values.filter (·.workspaceId = workspaceId) else []).map
      (fun r => ((.orchestrationRun, r.id.value), r.status.value))

/-- The finding about a parent that is not represented. -/
def gapFindings (workspaceId : WorkspaceId) (represented : List (RecoverySubject × PyStr))
    (parent : (RecoverySubject × PyStr) × PyStr) : List Finding :=
  if parent.1 ∉ represented ∧ parent.2 ∈ openValues then
    [(workspaceId, parent.1, .outcomeUnknown)]
  else []

/-- The findings of a classification. -/
def findings (s : OrchestrationStore) (attached : Bool) (workspaceId : WorkspaceId) :
    List Finding :=
  let scanned := scannedFindings s.runtime workspaceId
  scanned ++ (parentsIn s attached workspaceId).flatMap
    (gapFindings workspaceId (scanned.map (·.2.1)))

/-! ## The report returns them -/

section Reports

variable {env : Env} {workspaceId : WorkspaceId} {ws : Workspace}

theorem looks_inDomain {α : Type} {s : RuntimeStore} {P : α → Prop} {m : DomainTxn α}
    (hm : Looks s.domain m P) : Looks s (inDomain m) P := Looks.zoom rfl hm

theorem looks_inRuntime {α : Type} {s : OrchestrationStore} {P : α → Prop} {m : RuntimeTxn α}
    (hm : Looks s.runtime m P) : Looks s (inRuntime m) P := Looks.zoom rfl hm

theorem looks_getWorkspace {d : DomainStore} (present : d.workspaces.get? workspaceId = some ws) :
    Looks d (getWorkspace workspaceId) fun _ => True := by
  refine Looks.getStore.bind ?_
  rintro _ rfl
  exact (Looks.need present).mono fun _ _ => trivial

section Runtime

variable {s : RuntimeStore} (present : s.domain.workspaces.get? workspaceId = some ws)

include present

/-- A list read from the store of a workspace that exists. -/
theorem looks_listed {α : Type} (view : RuntimeStore → α) :
    Looks s (do
      let _ ← inDomain (getWorkspace workspaceId)
      let store ← getStore
      pure (view store) : RuntimeTxn α) (· = view s) := by
  refine (looks_inDomain (looks_getWorkspace present)).bind fun _ _ => Looks.getStore.bind ?_
  rintro _ rfl
  exact .pure rfl

omit present in
theorem looks_getRun {run : AgentRun} (mem : run ∈ runsIn s workspaceId) :
    Looks s (getRun workspaceId run.id) fun _ => True := by
  obtain ⟨stored, here⟩ := List.mem_filter.mp mem
  refine Looks.getStore.bind ?_
  rintro _ rfl
  refine (Looks.need (Registry.get?_of_mem_values stored)).bind ?_
  rintro _ rfl
  refine (Looks.raiseIf ?_).bind fun _ _ => .pure trivial
  exact not_not_intro (of_decide_eq_true here).symm

omit present in
theorem looks_toolInvocations {run : AgentRun} (mem : run ∈ runsIn s workspaceId) :
    Looks s (toolInvocations workspaceId run.id) (· = callsOf s run.id) := by
  refine (looks_getRun mem).bind fun _ _ => Looks.getStore.bind ?_
  rintro _ rfl
  exact .pure rfl

omit present in
theorem looks_toolReceipts {run : AgentRun} (mem : run ∈ runsIn s workspaceId) :
    Looks s (toolReceipts workspaceId run.id) (· = receiptsOf s run.id) := by
  refine (looks_getRun mem).bind fun _ _ => Looks.getStore.bind ?_
  rintro _ rfl
  exact .pure rfl

omit present in
theorem looks_runCases {run : AgentRun} (mem : run ∈ runsIn s workspaceId) :
    Looks s (runCases env workspaceId run) fun cases =>
      cases.map ClassifiedCase.finding = runFindings s workspaceId run := by
  unfold runCases runFindings
  split
  · refine Looks.bind (P := fun _ => True) ?_ fun reason _ =>
      (looks_toolInvocations mem).bind ?_
    · exact (Looks.readClock _).bind fun _ _ => .pure trivial
    · rintro _ rfl
      exact .pure rfl
  · exact .pure rfl

theorem looks_intentReason (record : GovernedAction) :
    Looks s (intentReason env workspaceId record) fun _ => True := by
  unfold intentReason
  split
  · exact .pure trivial
  · refine (Looks.readClock _).bind fun at' _ => ?_
    split
    · exact .pure trivial
    · refine (looks_listed present _).bind fun held _ => ?_
      split
      · exact .pure trivial
      · exact (looks_listed present _).bind fun _ _ => .pure trivial

theorem looks_intentCases (record : GovernedAction) :
    Looks s (intentCases env workspaceId record) fun cases =>
      cases.map ClassifiedCase.finding = intentFindings s workspaceId record := by
  unfold intentCases intentFindings
  split
  · refine (looks_intentReason present record).bind fun reason _ =>
      (looks_listed present fun store => store.held workspaceId record.intent.id).bind ?_
    rintro _ rfl
    exact .pure rfl
  · exact .pure rfl

omit present in
theorem looks_callCases {run : AgentRun} (mem : run ∈ runsIn s workspaceId) :
    Looks s (callCases workspaceId run) fun cases =>
      cases.map ClassifiedCase.finding = callFindings s workspaceId run := by
  refine (looks_toolReceipts mem).bind ?_
  rintro _ rfl
  refine (looks_toolInvocations mem).bind ?_
  rintro _ rfl
  exact .pure rfl

theorem looks_scanned :
    Looks s (scanned env workspaceId) fun cases =>
      cases.map ClassifiedCase.finding = scannedFindings s workspaceId := by
  refine (looks_listed present fun store => runsIn store workspaceId).bind ?_
  rintro _ rfl
  refine (Looks.gather fun run mem => looks_runCases mem).bind fun active seenActive => ?_
  refine (looks_listed present fun store => recordsIn store workspaceId).bind ?_
  rintro _ rfl
  refine (Looks.gather fun record _ => looks_intentCases present record).bind
    fun intents seenIntents => ?_
  refine (looks_listed present fun store => runsIn store workspaceId).bind ?_
  rintro _ rfl
  refine (Looks.gather fun run mem => looks_callCases mem).bind fun calls seenCalls => ?_
  apply Looks.pure
  rw [List.map_append, List.map_append, seenActive, seenIntents, seenCalls]
  rfl

end Runtime

section Service

variable {s : OrchestrationStore} {attached : Bool}

theorem map_gapCase (represented : List (RecoverySubject × PyStr)) (kind : RecoverySubject)
    (item : PyStr × PyStr) :
    (gapCase workspaceId represented kind item).map ClassifiedCase.finding =
      gapFindings workspaceId represented ((kind, item.1), item.2) := by
  unfold gapCase gapFindings
  split <;> rfl

/-- The gaps of one kind of parents. -/
theorem map_gapCases {α : Type} (represented : List (RecoverySubject × PyStr))
    (kind : RecoverySubject) (item : α → PyStr × PyStr) (parents : List α) :
    (parents.flatMap fun a => gapCase workspaceId represented kind (item a)).map
        ClassifiedCase.finding =
      (parents.map fun a => ((kind, (item a).1), (item a).2)).flatMap
        (gapFindings workspaceId represented) := by
  rw [List.map_flatMap, List.flatMap_map]
  exact List.flatMap_congr fun a _ => map_gapCase represented kind (item a)

theorem looks_attachedRuns (present : s.runtime.domain.workspaces.get? workspaceId = some ws) :
    Looks s (attachedRuns attached workspaceId) (· =
      if attached = true then s.runs.values.filter (·.workspaceId = workspaceId) else []) := by
  unfold attachedRuns
  split
  · refine (looks_inRuntime (looks_inDomain (looks_getWorkspace present))).bind fun _ _ =>
      Looks.getStore.bind ?_
    rintro _ rfl
    exact .pure rfl
  · exact .pure rfl

/-- In a workspace that exists, a classification returns the findings of the store. -/
theorem looks_classify (present : s.runtime.domain.workspaces.get? workspaceId = some ws) :
    Looks s (classify env attached workspaceId) fun cases => ∃ raw,
      cases = sortedCases raw ∧
        raw.map ClassifiedCase.finding = findings s attached workspaceId := by
  refine Looks.bind (Looks.atomic (P := fun raw =>
    raw.map ClassifiedCase.finding = findings s attached workspaceId) ?_)
    fun raw found => .pure ⟨raw, rfl, found⟩
  refine (looks_inRuntime (looks_scanned present)).bind fun cases seen => ?_
  have executions : Looks s (inGoals (listExecutions workspaceId)) (· =
      s.runtime.domain.executions.values.filter (·.workspaceId = workspaceId)) := by
    refine looks_inRuntime (looks_inDomain ((looks_getWorkspace present).bind fun _ _ =>
      Looks.getStore.bind ?_))
    rintro _ rfl
    exact .pure rfl
  have attempts : Looks s (inGoals (listAttempts workspaceId)) (· =
      s.runtime.domain.attempts.values.filter (·.workspaceId = workspaceId)) := by
    refine looks_inRuntime (looks_inDomain ((looks_getWorkspace present).bind fun _ _ =>
      Looks.getStore.bind ?_))
    rintro _ rfl
    exact .pure rfl
  refine executions.bind ?_
  rintro _ rfl
  refine attempts.bind ?_
  rintro _ rfl
  refine (looks_attachedRuns present).bind ?_
  rintro _ rfl
  apply Looks.pure
  have represented : cases.map ClassifiedCase.key =
      (scannedFindings s.runtime workspaceId).map (·.2.1) := by
    rw [← seen, List.map_map]
    rfl
  rw [List.map_append, List.map_append, List.map_append, map_gapCases, map_gapCases, map_gapCases,
    seen, represented]
  simp only [findings, parentsIn, List.flatMap_append, List.append_assoc]

/-- A classification that returned has found its workspace. -/
theorem classify_workspace {w w' : World OrchestrationStore} {cases : List ClassifiedCase}
    (ok : classify env attached workspaceId w = .ok cases w') :
    ∃ ws, w.store.runtime.domain.workspaces.get? workspaceId = some ws := by
  obtain ⟨raw, _, ok, -⟩ := bind_eq_ok.mp ok
  obtain ⟨scans, _, ok, -⟩ := bind_eq_ok.mp (atomic_eq_ok.mp ok)
  obtain ⟨_, ok, -⟩ := zoom_eq_ok.mp ok
  obtain ⟨runs, _, ok, -⟩ := bind_eq_ok.mp ok
  obtain ⟨found, _, ok, -⟩ := bind_eq_ok.mp ok
  obtain ⟨_, ok, -⟩ := zoom_eq_ok.mp ok
  exact ⟨found, (getEntity_eq_ok.mp ok).1⟩

/-- What a classification returns. -/
theorem classify_eq_ok {w w' : World OrchestrationStore} {cases : List ClassifiedCase}
    (ok : classify env attached workspaceId w = .ok cases w') :
    w'.store = w.store ∧ ∃ raw, cases = sortedCases raw ∧
      raw.map ClassifiedCase.finding = findings w.store attached workspaceId := by
  obtain ⟨ws, present⟩ := classify_workspace ok
  have looks : Looks w.store (classify env attached workspaceId) _ := looks_classify present
  obtain ⟨_, _, ok', kept, returned⟩ := looks w rfl
  rw [ok] at ok'
  cases ok'
  exact ⟨kept, returned⟩

end Service

end Reports

end AgentCompanyOS.Orchestration
