import AgentCompanyOS.Runtime.Receipts
import AgentCompanyOS.Runtime.RunCoupling

/-!
# What completes a run

The transaction that completes a run puts its evidence together from three sources: the
context that was supplied to the run, the receipts of its own tool calls, and the active
evidence pack. The brief is checked against this evidence in the same transaction, and so
is the outcome of every governed action of the run. What memory and messages contribute to
a request is no part of the evidence.
-/

set_option autoImplicit false

namespace AgentCompanyOS.Runtime

open Foundation Foundation.Txn Domain

/-! ## Sources of evidence -/

/-- A chunk that a run may use: its source is active and in the scope of the run's
definition, and the chunk is stored. -/
structure AuthorizedChunk (s : RuntimeStore) (run : AgentRun) (chunk : KnowledgeChunk) : Prop where
  source : ∃ source, s.knowledgeSources.get? chunk.sourceId = some source ∧
    source.status = .active ∧ source.id ∈ run.definitionVersion.knowledgeSources ∧
    source.trust ∈ run.definitionVersion.knowledgeTrust
  stored : ∃ set, s.knowledgeChunks.get? (chunk.sourceId, chunk.sourceVersion) = some set ∧
    chunk ∈ set.chunks

/-- The active pack of a run, all of it still authorized. -/
structure ActivePack (s : RuntimeStore) (run : AgentRun) (pack : EvidencePack) : Prop where
  active : run.workingState.activeEvidencePackId = some pack.id
  stored : s.evidencePacks.get? pack.id = some pack
  own : pack.runId = run.id
  authorized : ∀ item ∈ pack.result.candidates, AuthorizedChunk s run item.chunk

/-- A fact that a run may be grounded in. -/
inductive Grounded (s : RuntimeStore) (host : Host) (run : AgentRun) (fact : Fact) : Prop
  /-- A fact of the supplied context. -/
  | supplied (mem : fact ∈ run.context.facts)
  /-- A fact of a succeeded receipt of the run, for a tool version granted to its
  definition. -/
  | received (tools : host.tools = true) (receipt : ToolReceipt)
      (stored : receipt ∈ s.toolReceipts.values) (own : receipt.invocation.runId = run.id)
      (granted : receipt.invocation.toolVersion.grant ∈ run.definitionVersion.allowedTools)
      (succeeded : receipt.invocation.status = .succeeded) (shown : List Fact)
      (facts : receiptFacts receipt = .ok shown) (mem : fact ∈ shown)
  /-- The typed fact of a chunk in the active pack. -/
  | retrieved (knowledge : host.knowledge = true) (pack : EvidencePack)
      (active : ActivePack s run pack) (item : EvidenceCandidate)
      (candidate : item ∈ pack.result.candidates) (typed : KnowledgeFact)
      (chunk : item.chunk.fact = some typed) (reference : item.chunk.reference = .ok fact.sourceId)
      (key : fact.key = typed.key) (value : fact.value = typed.value)

section Reading

variable {host : Host} {run : AgentRun} {w w' : World RuntimeStore}

theorem evidence_eq_ok {facts : List Fact} (h : evidence run w = .ok facts w') (fact : Fact) :
    fact ∈ facts ↔ ∃ receipt ∈ w.store.toolReceipts.values, receipt.invocation.runId = run.id ∧
      receipt.invocation.toolVersion.grant ∈ run.definitionVersion.allowedTools ∧
      receipt.invocation.status = .succeeded ∧
      ∃ shown, receiptFacts receipt = .ok shown ∧ fact ∈ shown := by
  have h := lookup_then (reads_getRun _ _) h
  obtain ⟨shown, listed, h⟩ := (Reads.ofExcept _).then h
  obtain ⟨rfl, -⟩ := pure_eq_ok.mp h
  have members := mem_mapM_ok (ofExcept_eq_ok.mp listed).1
  simp only [List.mem_flatten, members, List.mem_filter, decide_eq_true_eq]
  constructor
  · rintro ⟨facts, ⟨receipt, ⟨⟨mem, own⟩, granted, succeeded⟩, found⟩, here⟩
    exact ⟨receipt, mem, own, granted, succeeded, facts, found, here⟩
  · rintro ⟨receipt, mem, own, granted, succeeded, facts, found, here⟩
    exact ⟨facts, ⟨receipt, ⟨⟨mem, own⟩, granted, succeeded⟩, found⟩, here⟩

theorem checkAuthorized_eq_ok {item : EvidenceCandidate} {u : Unit}
    (h : checkAuthorized run item w = .ok u w') : AuthorizedChunk w.store run item.chunk := by
  obtain ⟨source, found, h⟩ := (reads_getSource _ _).then h
  obtain ⟨scope, h⟩ := raiseIf_then h
  obtain ⟨chunks, listed, h⟩ := (reads_getChunks _ _ _).then h
  obtain ⟨present, -⟩ := raiseIf_eq_ok.mp h
  have found := getStore_then found
  obtain ⟨stored, foundSource, found⟩ := need_then found
  obtain ⟨-, found⟩ := raiseIf_then found
  obtain ⟨rfl, -⟩ := pure_eq_ok.mp found
  obtain ⟨_, -, listed⟩ := (reads_getSourceVersion _ _ _).then listed
  have listed := getStore_then listed
  obtain ⟨set, foundSet, listed⟩ := need_then listed
  obtain ⟨rfl, -⟩ := pure_eq_ok.mp listed
  have key : KnowledgeSource.id stored = item.chunk.sourceId := Registry.key_of_get? foundSource
  rw [key] at foundSet
  simp only [not_or, not_not] at scope present
  exact ⟨⟨stored, foundSource, scope⟩, set, foundSet, present⟩

theorem forEach_eq_ok {α : Type} {xs : List α} {f : α → RuntimeTxn Unit} {P : α → Prop}
    (reads : ∀ x, Reads (f x)) (check : ∀ {x u w'}, f x w = .ok u w' → P x) {u : Unit}
    (h : forEach xs f w = .ok u w') : ∀ x ∈ xs, P x := by
  induction xs with
  | nil => simp
  | cons x rest ih =>
      obtain ⟨_, first, h⟩ := (reads x).then h
      intro y mem
      rcases List.mem_cons.mp mem with rfl | mem
      · exact check first
      · exact ih h y mem

theorem activePack_eq_ok {found : Option EvidencePack} (h : activePack run w = .ok found w') :
    (run.workingState.activeEvidencePackId = none ∧ found = none) ∨
      ∃ pack, found = some pack ∧ ActivePack w.store run pack := by
  unfold activePack at h
  cases active : run.workingState.activeEvidencePackId with
  | none =>
      rw [active] at h
      obtain ⟨rfl, -⟩ := pure_eq_ok.mp h
      exact .inl ⟨rfl, rfl⟩
  | some packId =>
      rw [active] at h
      obtain ⟨pack, getting, h⟩ := (reads_getPack _ _ _).then h
      obtain ⟨_, authorized, h⟩ := (reads_forEach fun _ => reads_checkAuthorized _ _).then h
      obtain ⟨rfl, -⟩ := pure_eq_ok.mp h
      obtain ⟨_, -, -, getting⟩ := getRun_then getting
      have getting := getStore_then getting
      obtain ⟨stored, foundPack, getting⟩ := need_then getting
      obtain ⟨-, getting⟩ := raiseIf_then getting
      obtain ⟨own, getting⟩ := raiseIf_then getting
      obtain ⟨rfl, -⟩ := pure_eq_ok.mp getting
      have key : EvidencePack.id stored = packId := Registry.key_of_get? foundPack
      refine .inr ⟨stored, rfl, ?_, ?_, not_not.mp own, ?_⟩
      · rw [active, key]
      · rw [key]
        exact foundPack
      · exact forEach_eq_ok (fun _ => reads_checkAuthorized _ _) checkAuthorized_eq_ok authorized

theorem EvidencePack.facts_eq_ok {pack : EvidencePack} {facts : List Fact}
    (h : pack.facts = .ok facts) (fact : Fact) :
    fact ∈ facts ↔ ∃ item ∈ pack.result.candidates, ∃ typed, item.chunk.fact = some typed ∧
      item.chunk.reference = .ok fact.sourceId ∧ fact.key = typed.key ∧
      fact.value = typed.value := by
  rw [mem_mapM_ok h]
  simp only [List.mem_filterMap, Option.map_eq_some_iff]
  have shown : ∀ (chunk : KnowledgeChunk) (typed : KnowledgeFact),
      (do let reference ← chunk.reference; .ok (⟨typed.key, typed.value, reference⟩ : Fact)) =
        (.ok fact : Except Exc Fact) ↔
      chunk.reference = .ok fact.sourceId ∧ fact.key = typed.key ∧ fact.value = typed.value := by
    intro chunk typed
    cases reference : chunk.reference with
    | error e => simp [bind, Except.bind]
    | ok source =>
        obtain ⟨key, value, sourceId⟩ := fact
        simp only [bind, Except.bind, Except.ok.injEq, Fact.mk.injEq]
        constructor
        · rintro ⟨rfl, rfl, rfl⟩
          exact ⟨rfl, rfl, rfl⟩
        · rintro ⟨rfl, rfl, rfl⟩
          exact ⟨rfl, rfl, rfl⟩
  constructor
  · rintro ⟨⟨chunk, typed⟩, ⟨item, mem, typed', same, pair⟩, found⟩
    cases pair
    exact ⟨item, mem, typed, same, (shown _ _).mp found⟩
  · rintro ⟨item, mem, typed, same, facts⟩
    exact ⟨(item.chunk, typed), ⟨item, mem, typed, same, rfl⟩, (shown _ _).mpr facts⟩

/-- The pack that is active is one. -/
theorem ActivePack.unique {s : RuntimeStore} {pack other : EvidencePack}
    (h : ActivePack s run pack) (h' : ActivePack s run other) : pack = other := by
  have same : pack.id = other.id := Option.some.inj (h.active.symm.trans h'.active)
  have found := h.stored
  rw [same] at found
  exact Option.some.inj (found.symm.trans h'.stored)

/-- The evidence of a completion is what the run may be grounded in, and nothing else. -/
theorem grounded_iff {toolFacts knowledgeFacts : List Fact}
    (tools : toolEvidence host run w = .ok toolFacts w)
    (knowledge : knowledgeEvidence host run w = .ok knowledgeFacts w) (fact : Fact) :
    fact ∈ run.context.facts ++ toolFacts ++ knowledgeFacts ↔ Grounded w.store host run fact := by
  have received : fact ∈ toolFacts ↔ host.tools = true ∧
      ∃ receipt ∈ w.store.toolReceipts.values, receipt.invocation.runId = run.id ∧
        receipt.invocation.toolVersion.grant ∈ run.definitionVersion.allowedTools ∧
        receipt.invocation.status = .succeeded ∧
        ∃ shown, receiptFacts receipt = .ok shown ∧ fact ∈ shown := by
    unfold toolEvidence at tools
    split at tools
    · next present =>
        rw [evidence_eq_ok tools]
        simp [present]
    · next missing =>
        obtain ⟨rfl, -⟩ := pure_eq_ok.mp tools
        simp [missing]
  have retrieved : fact ∈ knowledgeFacts ↔ host.knowledge = true ∧
      ∃ pack, ActivePack w.store run pack ∧ ∃ item ∈ pack.result.candidates, ∃ typed,
        item.chunk.fact = some typed ∧ item.chunk.reference = .ok fact.sourceId ∧
        fact.key = typed.key ∧ fact.value = typed.value := by
    unfold knowledgeEvidence at knowledge
    split at knowledge
    · next present =>
        obtain ⟨found, active, knowledge⟩ := (reads_activePack run).then knowledge
        rcases activePack_eq_ok active with ⟨none, rfl⟩ | ⟨pack, rfl, facts⟩
        · obtain ⟨rfl, -⟩ := pure_eq_ok.mp knowledge
          simp only [List.not_mem_nil, false_iff, not_and, not_exists]
          rintro - pack ⟨active, -, -, -⟩
          rw [none] at active
          cases active
        · rw [EvidencePack.facts_eq_ok (ofExcept_eq_ok.mp knowledge).1]
          simp only [present, true_and]
          constructor
          · exact fun found => ⟨pack, facts, found⟩
          · rintro ⟨other, active, found⟩
            rw [facts.unique active]
            exact found
    · next missing =>
        obtain ⟨rfl, -⟩ := pure_eq_ok.mp knowledge
        simp [missing]
  rw [List.mem_append, List.mem_append, received, retrieved]
  constructor
  · rintro ((mem | ⟨present, receipt, stored, own, granted, succeeded, shown, facts, mem⟩) |
      ⟨present, pack, active, item, candidate, typed, chunk, reference, key, value⟩)
    · exact .supplied mem
    · exact .received present receipt stored own granted succeeded shown facts mem
    · exact .retrieved present pack active item candidate typed chunk reference key value
  · rintro (mem | ⟨present, receipt, stored, own, granted, succeeded, shown, facts, mem⟩ |
      ⟨present, pack, active, item, candidate, typed, chunk, reference, key, value⟩)
    · exact .inl (.inl mem)
    · exact .inl (.inr ⟨present, receipt, stored, own, granted, succeeded, shown, facts, mem⟩)
    · exact .inr ⟨present, pack, active, item, candidate, typed, chunk, reference, key, value⟩

end Reading

/-! ## What grounding depends on -/

section Scope

variable {host : Host} {s s' : RuntimeStore} {run run' : AgentRun} {fact : Fact}

/-- The tables that evidence is read from. -/
def RuntimeStore.evidenceTables (s : RuntimeStore) :=
  (s.toolReceipts, s.evidencePacks, s.knowledgeSources, s.knowledgeChunks)

/-- What evidence depends on in a run. -/
def AgentRun.evidenceScope (run : AgentRun) :=
  (run.id, run.context, run.definitionVersion, run.workingState.activeEvidencePackId)

theorem AuthorizedChunk.congr {chunk : KnowledgeChunk}
    (tables : s'.evidenceTables = s.evidenceTables) (scope : run'.evidenceScope = run.evidenceScope)
    (h : AuthorizedChunk s run chunk) : AuthorizedChunk s' run' chunk := by
  simp only [RuntimeStore.evidenceTables, AgentRun.evidenceScope, Prod.mk.injEq] at tables scope
  obtain ⟨-, -, sources, chunks⟩ := tables
  obtain ⟨-, -, definition, -⟩ := scope
  constructor
  · rw [sources, definition]
    exact h.source
  · rw [chunks]
    exact h.stored

theorem Grounded.congr (tables : s'.evidenceTables = s.evidenceTables)
    (scope : run'.evidenceScope = run.evidenceScope) (h : Grounded s host run fact) :
    Grounded s' host run' fact := by
  have authorized : ∀ chunk, AuthorizedChunk s run chunk → AuthorizedChunk s' run' chunk :=
    fun chunk h => h.congr tables scope
  simp only [RuntimeStore.evidenceTables, AgentRun.evidenceScope, Prod.mk.injEq] at tables scope
  obtain ⟨receipts, packs, -, -⟩ := tables
  obtain ⟨id, context, definition, active⟩ := scope
  cases h with
  | supplied mem => exact .supplied (context ▸ mem)
  | received tools receipt stored own granted succeeded shown facts mem =>
      exact .received tools receipt (receipts ▸ stored) (own.trans id.symm) (definition ▸ granted)
        succeeded shown facts mem
  | retrieved knowledge pack found item candidate typed chunk reference key value =>
      refine .retrieved knowledge pack ⟨active.trans found.active, packs ▸ found.stored,
        found.own.trans id.symm, ?_⟩ item candidate typed chunk reference key value
      exact fun item mem => authorized _ (found.authorized item mem)

theorem grounded_congr (tables : s'.evidenceTables = s.evidenceTables)
    (scope : run'.evidenceScope = run.evidenceScope) :
    Grounded s' host run' fact ↔ Grounded s host run fact :=
  ⟨fun h => h.congr tables.symm scope.symm, fun h => h.congr tables scope⟩

end Scope

/-! ## The completing transaction -/

/-- Every governed action of a run has a receipt with an output. -/
def Resolved (s : RuntimeStore) (run : AgentRun) : Prop :=
  ∀ g ∈ s.governed.values, g.intent.runId = run.id → g.intent.workspaceId = run.workspaceId →
    ∃ receipt ∈ s.toolReceipts.values, g.invocationId = some receipt.invocation.id ∧
      receipt.output.isSome = true

section Completing

variable {platform : Platform} {host : Host} {w w' : World RuntimeStore}

theorem completeRun_eq_ok {env : Env} {current : AgentRun} {parents : RuntimeSnapshot}
    {findings : List Fact} {gaps : List PyStr} {effect : DecisionEffect}
    (h : completeRun env host current parents findings gaps w = .ok effect w') :
    Resolved w.store current ∧ ∃ brief, effect.result = some brief ∧
      CheckedBrief (Grounded w.store host current) current.context.requiredKeys brief := by
  have h := lookup_then (reads_getWorkspace _) h
  have h := lookup_then (reads_getRun _ _) h
  obtain ⟨resolved, h⟩ := raiseIf_then h
  obtain ⟨toolFacts, tools, h⟩ := (reads_toolEvidence host current).then h
  obtain ⟨knowledgeFacts, knowledge, h⟩ := (reads_knowledgeEvidence host current).then h
  obtain ⟨brief, validated, h⟩ := (Reads.ofExcept _).then h
  obtain ⟨_, w₁, -, h⟩ := bind_eq_ok.mp h
  obtain ⟨rfl, -⟩ := pure_eq_ok.mp h
  constructor
  · intro g mem own workspace
    have here : g ∈ ((w.store.governed.values.filter
        (·.intent.workspaceId = current.workspaceId)).filter (·.intent.runId = current.id)) := by
      simp [List.mem_filter, mem, own, workspace]
    have settled := List.any_eq_false.mp (Bool.eq_false_iff.mpr resolved) g here
    simp only [decide_eq_true_eq, not_not, List.mem_map, List.mem_filter] at settled
    obtain ⟨receipt, ⟨⟨stored, -⟩, output⟩, same⟩ := settled
    exact ⟨receipt, stored, same.symm, output⟩
  · have checked := validateBrief_eq_ok (ofExcept_eq_ok.mp validated).1
    have evidence : (fun fact => fact ∈ current.context.facts ++ toolFacts ++ knowledgeFacts) =
        Grounded w.store host current :=
      funext fun fact => propext (grounded_iff tools knowledge fact)
    rw [evidence] at checked
    exact ⟨brief, rfl, checked⟩

/-- A decision that leads to success completes the task. -/
theorem decisionEffect_completes {env : Env} {current : AgentRun} {parents : RuntimeSnapshot}
    {decision : ModelDecision} {effect : DecisionEffect}
    (h : decisionEffect env host current parents decision w = .ok effect w')
    (succeeded : effect.status = .succeeded) :
    Resolved w.store current ∧ ∃ brief, effect.result = some brief ∧
      CheckedBrief (Grounded w.store host current) current.context.requiredKeys brief := by
  cases decision with
  | completeTask findings gaps => exact completeRun_eq_ok h
  | requestMoreContext missing =>
      obtain ⟨-, h⟩ := raiseIf_then h
      obtain ⟨_, w₁, -, h⟩ := bind_eq_ok.mp h
      obtain ⟨rfl, -⟩ := pure_eq_ok.mp h
      cases succeeded
  | respond message =>
      obtain ⟨rfl, -⟩ := pure_eq_ok.mp h
      cases succeeded
  | callTool toolId argumentsJson =>
      obtain ⟨rfl, -⟩ := pure_eq_ok.mp h
      cases succeeded

/-- A run that a step has completed: what the completing transaction has checked, in the
store `s` that the step has found. -/
structure CompletedIn (s : RuntimeStore) (host : Host) (run : AgentRun) : Prop where
  resolved : Resolved s run
  brief : ∃ brief, run.result = some brief ∧
    CheckedBrief (Grounded s host run) run.context.requiredKeys brief

/-- Up to its effect a decision changes no table of evidence and no governed record. -/
theorem logged_tables {s s' : RuntimeStore}
    (logged : Relation.ReflTransGen (Write [.audit, .action]) s s') :
    s'.evidenceTables = s.evidenceTables ∧ s'.governed = s.governed := by
  have same : ∀ {t t'}, Write [.audit, .action] t t' →
      (t'.evidenceTables, t'.governed) = (t.evidenceTables, t.governed) := by
    intro t t' write
    cases write with
    | audit => rfl
    | action => rfl
    | domain command allowed => simpa using commandKind_mem allowed
    | _ allowed => simp at allowed
  have whole : (s'.evidenceTables, s'.governed) = (s.evidenceTables, s.governed) :=
    writes_induct (P := fun t => (t.evidenceTables, t.governed) = (s.evidenceTables, s.governed))
      (fun write before => (same write).trans before) logged rfl
  simpa only [Prod.mk.injEq] using whole

theorem Decision.completedIn {runId : AgentRunId} {decision : ModelDecision}
    {current updated : AgentRun} {parents : RuntimeSnapshot} {action : Action}
    {effect : DecisionEffect} {v v' : World RuntimeStore}
    (taken : Decision platform host runId decision w w' current updated parents action effect v v')
    (succeeded : updated.status = .succeeded) : CompletedIn w.store host updated := by
  obtain ⟨⟨at', o, evolved⟩, -, -⟩ := recordDecision_runs taken.recorded
  have reached : updated.status = effect.status := evolved.status_eq
  obtain ⟨resolved, brief, result, checked⟩ :=
    decisionEffect_completes taken.decided (reached.symm.trans succeeded)
  obtain ⟨tables, governed⟩ := logged_tables taken.logged
  have scope : updated.evidenceScope = current.evidenceScope := by
    unfold AgentRun.evidenceScope
    rw [evolved.fields]
    rfl
  have evidence : Grounded v.store host current = Grounded w.store host updated :=
    funext fun fact => propext (grounded_congr tables scope.symm)
  have origin := evolved.origin_eq
  simp only [AgentRun.evidenceScope, Prod.mk.injEq] at scope
  simp only [AgentRun.origin, Prod.mk.injEq] at origin
  simp only [RuntimeStore.evidenceTables, Prod.mk.injEq] at tables
  constructor
  · intro g mem own workspace
    rw [← governed] at mem
    rw [scope.1] at own
    rw [origin.2.1] at workspace
    obtain ⟨receipt, stored, settled⟩ := resolved g mem own workspace
    exact ⟨receipt, tables.1 ▸ stored, settled⟩
  · refine ⟨brief, ?_, ?_⟩
    · exact (congrArg RunFields.result evolved.fields).trans result
    · rw [scope.2.1, ← evidence]
      exact checked

end Completing

/-! ## The step that completes a run -/

section Step

variable {platform : Platform} {s s' : RuntimeStore} {previous run : AgentRun} {service : Service}

/-- Only a decision makes a run succeed. -/
theorem RunStep.decide_of_succeeded (step : RunStep s s' previous run service)
    (succeeded : run.status = .succeeded) : service = .decide := by
  have stillOpen := step.open
  cases step with
  | decided => rfl
  | failed at' code cancelled o evolved facts =>
      have reached : run.status = failedStatus cancelled := evolved.status_eq
      rw [succeeded] at reached
      unfold failedStatus at reached
      split at reached <;> cases reached
  | approval at' status either evolved =>
      have reached : run.status = status := evolved.status_eq
      rw [succeeded] at reached
      rcases either with status | status <;> rw [status] at reached <;> cases reached
  | supplied at' context o evolved =>
      have reached : run.status = .running := evolved.status_eq
      rw [succeeded] at reached
      cases reached
  | claimed at' idle evolved | dispatched at' evolved | observed at' o evolved
  | retrieved at' evidence memory evolved =>
      have reached : run.status = previous.status := evolved.status_eq
      rw [← reached, succeeded] at stillOpen
      cases stillOpen

/-- Only a drive that awaits the model may save a run as decided. -/
theorem decide_mem_services {s : Sys} {label : Label} (h : .decide ∈ label.services s) :
    ∃ id input call loop iteration, label = .advance id input ∧ s.call? id = some call ∧
      call.point = .model loop iteration := by
  cases label with
  | advance id input =>
      have services : Label.services s (.advance id input) =
          ((s.call? id).map fun call => call.point.services).getD [] := rfl
      rw [services] at h
      cases found : s.call? id with
      | none => simp [found] at h
      | some call =>
          rw [found] at h
          replace h : .decide ∈ call.point.services := h
          cases point : call.point with
          | model loop iteration => exact ⟨id, input, call, loop, iteration, rfl, found, point⟩
          | _ => simp [point, Point.services, invokeServices] at h
  | command c => cases c <;> simp [Label.services, HostCommand.services] at h
  | _ => simp [Label.services] at h

/-- A call completes a run with the reply it has awaited: it drives this very run, which is
running before the step and stored as succeeded after it. -/
structure CompletedBy (platform : Platform) (s : Sys) (callId : Nat) (reply : Except Exc PyStr)
    (answers : PortAnswers) (call : Call) (run : AgentRun) : Prop where
  called : s.call? callId = some call
  awaiting : ∃ loop iteration, call.point = .model loop iteration ∧ loop.runId = run.id
  before : ∃ previous, s.store.runs.get? run.id = some previous ∧ previous.status = .running ∧
    previous.evidenceScope = run.evidenceScope
  after : (s.step platform (.advance callId (.model reply answers))).store.runs.get? run.id =
    some run

/-- The run that a decision has made succeed was running, and its evidence is that of the
run before the decision. -/
theorem Decision.before {host : Host} {runId : AgentRunId} {decision : ModelDecision}
    {w w' : World RuntimeStore} {current updated : AgentRun} {parents : RuntimeSnapshot}
    {action : Action} {effect : DecisionEffect} {v v' : World RuntimeStore}
    (taken : Decision platform host runId decision w w' current updated parents action effect v v')
    (succeeded : updated.status = .succeeded) : runId = updated.id ∧ current.status = .running ∧
      current.evidenceScope = updated.evidenceScope := by
  obtain ⟨⟨at', o, evolved⟩, -, -⟩ := recordDecision_runs taken.recorded
  have key : AgentRun.key current = runId := Registry.key_of_get? taken.found
  have same : updated.id = current.id := (congrArg RunFields.id evolved.fields).trans rfl
  have legal := evolved.legal
  rw [succeeded] at legal
  refine ⟨key.symm.trans same.symm, ?_, ?_⟩
  · cases status : current.status <;> simp [status, AgentRunStatus.allowed] at legal
    rfl
  · unfold AgentRun.evidenceScope
    rw [evolved.fields]
    rfl

/-- The reply of the model that has made a run succeed was given to the drive of this run,
and checked against the evidence of the store it has found. -/
theorem decide_completedIn {shared : Shared} {call : Call} {loop : Loop}
    {iteration : ClaimedIteration} {reply : Except Exc PyStr} {answers : PortAnswers}
    {id : AgentRunId}
    (before : shared.world.store.runs.get? id ≠ some run)
    (after : (shared.decide platform call.host loop iteration call.frames reply
      answers).shared.world.store.runs.get? id = some run) (succeeded : run.status = .succeeded) :
    loop.runId = run.id ∧ (∃ previous, shared.world.store.runs.get? run.id = some previous ∧
      previous.status = .running ∧ previous.evidenceScope = run.evidenceScope) ∧
      CompletedIn shared.world.store call.host run := by
  unfold Shared.decide at after
  split at after
  · exact (before after).elim
  · split at after
    · exact (before after).elim
    · next decision parsed =>
        split at after
        · have runs : (World.after (driveToolAction platform.toEnv call.host answers
              loop.workspaceId loop.runId iteration decision shared.world)).store.runs =
              shared.world.store.runs :=
            runs_frame (moves_driveToolAction (K := [.action, .audit]) _ _ _ _ _ _ _ _).2
              (by simp) (by simp)
          replace after : (World.after (driveToolAction platform.toEnv call.host answers
              loop.workspaceId loop.runId iteration decision shared.world)).store.runs.get? id =
              some run := after
          rw [runs] at after
          exact (before after).elim
        · replace after : (World.after (driveAction platform call.host answers loop.workspaceId
              loop.runId iteration decision shared.world)).store.runs.get? id = some run := after
          cases h : driveAction platform call.host answers loop.workspaceId loop.runId iteration
              decision shared.world with
          | ok updated w' =>
              rw [h] at after
              obtain ⟨current, parents, action, effect, v, v', taken⟩ := driveAction_eq_ok h
              replace after : w'.store.runs.get? id = some run := after
              rw [taken.step.1, Registry.get?_put] at after
              split at after
              · obtain rfl := Option.some.inj after
                obtain ⟨named, running, scope⟩ := taken.before succeeded
                have found := taken.found
                rw [named] at found
                exact ⟨named, ⟨current, found, running, scope⟩, taken.completedIn succeeded⟩
              · exact (before after).elim
          | error e w' =>
              rw [h] at after
              have same : w'.store = shared.world.store := (RollsBack.atomic _).store_eq h
              replace after : w'.store.runs.get? id = some run := after
              rw [same] at after
              exact (before after).elim

theorem completion_step {s : Sys} {label : Label} {id : AgentRunId}
    (before : s.store.runs.get? id = some previous) (open' : previous.status.terminal = false)
    (after : (s.step platform label).store.runs.get? id = some run)
    (succeeded : run.status = .succeeded) :
    ∃ callId reply answers call, label = .advance callId (.model reply answers) ∧
      CompletedBy platform s callId reply answers call run ∧ CompletedIn s.store call.host run := by
  have changed : s.store.runs.get? id ≠ some run := by
    rw [before]
    intro same
    rw [Option.some.inj same, succeeded] at open'
    cases open'
  have key : AgentRun.key run = id := Registry.key_of_get? after
  have stored := after
  rw [← key] at stored
  cases (step_runs platform s label).source after with
  | kept present => exact (changed present).elim
  | started allowed facts => cases facts.running.symm.trans succeeded
  | stepped service allowed previous present step =>
      obtain rfl := step.decide_of_succeeded succeeded
      obtain ⟨callId, input, call, loop, iteration, rfl, found, point⟩ :=
        decide_mem_services allowed
      have stepped : (s.step platform (.advance callId input)).store =
          (s.shared.advance platform call input).shared.world.store := by
        rw [Sys.step_advance found]
        rfl
      rw [stepped] at after
      obtain ⟨number, host, _, frames⟩ := call
      obtain rfl : _ = Point.model loop iteration := point
      cases input with
      | model reply answers =>
          obtain ⟨named, running, completed⟩ := decide_completedIn changed after succeeded
          exact ⟨callId, reply, answers, _, rfl,
            ⟨found, ⟨loop, iteration, rfl, named⟩, running, stored⟩, completed⟩
      | _ => exact (changed after).elim

end Step

/-! ## Governed records of a run -/

/-- A governed record in `s'` was there in `s` under its intent, with its claim if it had
one, or `who` says that its intent is new. -/
def GovernedGrown (who : ActionIntent → Prop) (s s' : RuntimeStore) : Prop :=
  ∀ g ∈ s'.governed.values, (∃ old ∈ s.governed.values, old.intent = g.intent ∧
    (old.invocationId ≠ none → g.invocationId = old.invocationId)) ∨ who g.intent

namespace GovernedGrown

variable {who who' : ActionIntent → Prop} {s s' s'' : RuntimeStore}

theorem of_eq (same : s'.governed = s.governed) : GovernedGrown who s s' :=
  fun g mem => .inl ⟨g, same ▸ mem, rfl, fun _ => rfl⟩

theorem mono (h : GovernedGrown who s s') (wider : ∀ intent, who intent → who' intent) :
    GovernedGrown who' s s' :=
  fun g mem => (h g mem).imp_right (wider _)

theorem trans (h : GovernedGrown who s s') (h' : GovernedGrown who s' s'') :
    GovernedGrown who s s'' := by
  intro g mem
  rcases h' g mem with ⟨middle, memMiddle, intent, claim⟩ | new
  · rcases h middle memMiddle with ⟨old, memOld, intentOld, claimOld⟩ | new
    · refine .inl ⟨old, memOld, intentOld.trans intent, fun claimed => ?_⟩
      have kept := claimOld claimed
      exact (claim (kept ▸ claimed)).trans kept
    · exact .inr (intent ▸ new)
  · exact .inr new

/-- A record saved over the stored one, under its intent and with its claim. -/
theorem put {old record : GovernedAction} (present : s.governed.get? record.intent.id = some old)
    (history : governedHistory old record) (same : s'.governed = s.governed.put record) :
    GovernedGrown who s s' := by
  intro g mem
  rw [same] at mem
  rcases Registry.mem_values_put.mp mem with rfl | ⟨mem, -⟩
  · obtain ⟨intent, -, -, -, -, -, -, claim, -⟩ := history
    exact .inl ⟨old, Registry.mem_values_of_get? present, intent.symm, claim⟩
  · exact .inl ⟨g, mem, rfl, fun _ => rfl⟩

end GovernedGrown

section Growing

variable {platform : Platform} {K : List Kind} {who : ActionIntent → Prop} {s s' : RuntimeStore}

/-- Writes that prepare no record add none. -/
theorem governedGrown_writes (moved : Relation.ReflTransGen (Write K) s s')
    (noPrepare : .prepare ∉ K) : GovernedGrown who s s' := by
  refine writes_induct (P := fun t => GovernedGrown who s t) ?_ moved (.of_eq rfl)
  intro t t' write ih
  refine ih.trans ?_
  cases write with
  | prepare allowed => exact (noPrepare allowed).elim
  | review allowed _ old record present history kept => exact .put present history rfl
  | claim allowed _ old record present history => exact .put present history rfl
  | _ => exact .of_eq rfl

/-- Records are added for intents that `who` names only. -/
def preparesOnly (who : ActionIntent → Prop) : Guarantee RuntimeStore :=
  .onStore (GovernedGrown who) (fun _ => .of_eq rfl) (fun h h' => h.trans h')

theorem prepares_of_writes {α : Type} {m : RuntimeTxn α} (hm : Moves (writes K) m)
    (noPrepare : .prepare ∉ K) : Moves (preparesOnly who) m :=
  hm.mono fun moved => governedGrown_writes moved noPrepare

/-- The intents of a call of a tool by an action of a run. -/
def ofCall (run : AgentRun) (action : Action) (tool : ToolVersion) (intent : ActionIntent) : Prop :=
  intent.runId = run.id ∧ intent.workspaceId = run.workspaceId ∧ intent.actionId = action.id ∧
    intent.tool = tool

variable {host : Host} {run : AgentRun} {action : Action}

theorem prepares_saveNew {record : GovernedAction} (own : who record.intent) :
    Moves (preparesOnly who) (saveGovernedAction record none) := by
  refine Moves.atomic (Moves.bind_reads (reads_checkGoverned record none) fun w u ok => ?_)
  refine ⟨⟨Nat.le_refl _, Nat.le_refl _⟩, ?_⟩
  show GovernedGrown who w.store { w.store with governed := w.store.governed.put record }
  intro g mem
  rcases Registry.mem_values_put.mp mem with rfl | ⟨mem, -⟩
  · exact .inr own
  · exact .inl ⟨g, mem, rfl, fun _ => rfl⟩

theorem prepares_prepareNew {tool : ToolVersion} {request : ToolInput} :
    Moves (preparesOnly (ofCall run action tool))
      (prepareNew platform host run action tool request) := by
  have logged : ∀ env record kind reason,
      Moves (preparesOnly (ofCall run action tool)) (governanceEvent env record kind reason) :=
    fun env record kind reason =>
      prepares_of_writes (moves_governanceEvent (K := [.audit]) env record kind reason) (by simp)
  refine (reads_approvalPolicy _).moves.bind fun policy => (Moves.need _ _).bind fun policy =>
    (idle_organizationCheck _ host run).moves.bind fun _ => (moves_now _).bind fun at' =>
    (reads_checked _).moves.bind fun id => (Moves.ofExcept _).bind fun digest => ?_
  refine Moves.bind_reads (Reads.ofExcept _) fun w intent created => ?_
  have intentEq := (ActionIntent.create_eq_ok (ofExcept_eq_ok.mp created).1).1
  refine MovesAt.bind_reads (reads_checked _) fun record made => ?_
  have fields := GovernedAction.create_eq_ok (checked_eq_ok.mp made).1
  have intentOf : record.intent = intent := congrArg GovernedFields.intent fields
  have own : ofCall run action tool record.intent := by
    rw [intentOf, intentEq]
    exact ⟨rfl, rfl, rfl, rfl⟩
  exact ((prepares_saveNew own).bind fun _ => (logged _ _ _ _).bind fun _ =>
    (Moves.runIf fun _ => logged _ _ _ _).bind fun _ => Moves.pure _) w

theorem prepares_prepare {tool : ToolVersion} {request : ToolInput} :
    Moves (preparesOnly (ofCall run action tool))
      (prepare platform host run action tool request) := by
  refine (reads_governedActions _).moves.bind fun records => ?_
  split
  · exact (idle_validate platform host _ run action tool request).moves.bind fun _ => Moves.pure _
  · exact prepares_prepareNew

theorem prepares_reviewMessage {resolved : ResolvedTool} {request : ToolInput} :
    Moves (preparesOnly (ofCall run action resolved.version))
      (reviewMessage platform host run action resolved request) := by
  refine (Moves.raiseIf _ _).bind fun _ =>
    (Moves.catching prepares_prepare moves_refuseViolation).bind fun governed => ?_
  split
  · exact (prepares_of_writes (moves_governanceEvent (K := [.audit]) _ _ _ _) (by simp)).bind
      fun _ => Moves.raise _
  · refine (idle_allowed _ _).moves.bind fun executable => ?_
    split
    · exact Moves.pure _
    · exact (prepares_of_writes (moves_approvalWait (K := [.domain, .run]) _ run) (by simp)).bind
        fun _ => Moves.pure _

/-- The intents of the messages that an action of a run asks for, with the tool that is
registered under the grant. -/
def ofMessage (s : RuntimeStore) (run : AgentRun) (action : Action) (raw : PyStr)
    (grant : Option ToolGrant) (intent : ActionIntent) : Prop :=
  grant = some intent.tool.grant ∧ s.Registers intent.tool ∧
    (∃ request, validateInput raw intent.tool = .ok request ∧ request.isFixtureMessage = true) ∧
    ofCall run action intent.tool intent

theorem prepares_authorizeTool {toolId : ToolId} {raw : PyStr} {grant : Option ToolGrant}
    (w : World RuntimeStore) :
    MovesAt (preparesOnly (ofMessage w.store run action raw grant))
      (authorizeTool platform host run action toolId raw grant) w := by
  cases grant with
  | none => exact (Moves.getStore.bind fun _ => Moves.raise _) w
  | some grant =>
      refine MovesAt.bind_reads (reads_resolve host _ _) fun resolved resolving =>
        MovesAt.bind_reads (reads_validated _) fun request validating => ?_
      have resolving := getStore_then resolving
      obtain ⟨same, -, registered⟩ := resolve_eq_ok (ofExcept_eq_ok.mp resolving).1
      have valid := validated_eq_ok validating
      split
      · next message =>
          refine ⟨(prepares_reviewMessage w).1, GovernedGrown.mono (prepares_reviewMessage w).2 ?_⟩
          intro intent called
          have tool := called.2.2.2
          refine ⟨?_, ?_, ⟨request, ?_, message⟩, called.1, called.2.1, called.2.2.1, rfl⟩
          · rw [tool, same]
          · rw [tool]
            exact registered
          · rw [tool]
            exact valid
      · exact ((Moves.raiseIf _ _).bind fun _ => Moves.pure _) w

/-- What follows the authorization prepares nothing. -/
theorem prepares_settleVerdict {toolId : ToolId} {grant : Option ToolGrant}
    {invocations : List ToolInvocation} {parents : List Version} (verdict : Verdict) :
    Moves (preparesOnly who)
      (settleVerdict platform host run action toolId grant invocations parents verdict) := by
  cases verdict with
  | refused code =>
      exact prepares_of_writes
        (moves_refused (K := [.run, .audit]) platform run action toolId code _) (by simp)
  | waiting waiting => exact Moves.pure _
  | granted resolved request governed =>
      exact prepares_of_writes
        (moves_claimDispatch (K := [.run, .invocation, .claim, .audit]) _ _ _ _ _ _ _ _ _ _)
        (by simp)

/-- An intent is that of a message which a stored action of the run asks for, with the tool
that is registered under the run's grant. -/
structure Called (s : RuntimeStore) (run : AgentRun) (intent : ActionIntent) : Prop where
  workspace : intent.workspaceId = run.workspaceId
  action : ∃ action toolId raw request, s.actions.get? intent.actionId = some action ∧
    action.runId = run.id ∧ action.decision = .callTool toolId raw ∧
    run.definitionVersion.allowedTools.find? (·.toolId = toolId) = some intent.tool.grant ∧
    validateInput raw intent.tool = .ok request ∧ request.isFixtureMessage = true
  tool : s.Registers intent.tool

/-- The run of an intent is stored and running, and its action has no invocation yet. -/
structure RunningIntent (s : RuntimeStore) (intent : ActionIntent) : Prop where
  run : ∃ run, s.runs.get? intent.runId = some run ∧ run.status = .running ∧ Called s run intent
  unused : ∀ i ∈ s.toolInvocations.values, i.runId = intent.runId → i.actionId ≠ intent.actionId

/-- A claim prepares records only for the run that it has found running. -/
theorem prepares_invokeClaim {workspaceId : WorkspaceId} {runId : AgentRunId}
    {expected : Version} (w : World RuntimeStore) :
    MovesAt (preparesOnly (RunningIntent w.store))
      (invokeClaim platform host workspaceId runId action expected) w := by
  refine MovesAt.atomic (MovesAt.bind_reads (reads_getRun _ _) fun run read => ?_)
  have reading := getStore_then read
  obtain ⟨stored, found, reading⟩ := need_then reading
  obtain ⟨-, reading⟩ := raiseIf_then reading
  obtain ⟨rfl, -⟩ := pure_eq_ok.mp reading
  have key : AgentRun.key stored = runId := Registry.key_of_get? found
  cases decision : action.decision with
  | callTool toolId raw =>
      refine MovesAt.bind_reads (Reads.raiseIf _ _) fun _ bound =>
        MovesAt.bind_reads (reads_getAction _ _) fun filed getting =>
        MovesAt.bind_reads (Reads.raiseIf _ _) fun _ same =>
        MovesAt.bind_reads (Reads.raiseIf _ _) fun _ _ =>
        MovesAt.bind_reads (reads_toolInvocations _ _) fun invocations listed => ?_
      have own : action.runId = stored.id := not_not.mp (raiseIf_eq_ok.mp bound).1
      have foundAction : w.store.actions.get? action.id = some action := by
        have getting := getStore_then getting
        obtain ⟨other, found, getting⟩ := need_then getting
        obtain ⟨-, getting⟩ := raiseIf_then getting
        obtain ⟨rfl, -⟩ := pure_eq_ok.mp getting
        rw [← not_not.mp (raiseIf_eq_ok.mp same).1]
        rw [not_not.mp (raiseIf_eq_ok.mp same).1] at found ⊢
        exact found
      have listed : invocations = w.store.toolInvocations.values.filter (·.runId = stored.id) := by
        obtain ⟨_, -, listed⟩ := (reads_getRun _ _).then listed
        have listed := getStore_then listed
        exact (pure_eq_ok.mp listed).1.symm
      split
      · exact ((Moves.raiseIf _ _).bind fun _ => (Moves.raiseIf _ _).bind fun _ => Moves.pure _) w
      · next none =>
        refine MovesAt.bind_reads (Reads.raiseIf _ _) fun _ _ =>
          MovesAt.bind_reads (Reads.raiseIf _ _) fun _ available =>
          MovesAt.bind_reads (Reads.raiseIf _ _) fun _ _ =>
          MovesAt.bind_reads (reads_toolParents _) fun _ _ =>
          MovesAt.bind_idle (moves_now _) fun at' v _ same =>
          MovesAt.bind_reads (Reads.raiseIf _ _) fun _ _ => ?_
        obtain ⟨available, -⟩ := raiseIf_eq_ok.mp available
        simp only [not_or, not_not] at available
        -- From here on the run that was found is known to be running.
        have wider : ∀ intent, ofMessage v.store stored action raw
            (stored.definitionVersion.allowedTools.find? (·.toolId = toolId)) intent →
            RunningIntent w.store intent := by
          rintro intent ⟨grant, registered, ⟨request, valid, message⟩, ofRun, workspace, ofAction,
            -⟩
          rw [same] at registered
          have runOf : intent.runId = runId := ofRun.trans key
          refine ⟨⟨stored, by rw [runOf]; exact found, available.1, workspace,
            ⟨action, toolId, raw, request, by rw [ofAction]; exact foundAction, own, decision,
              grant, valid, message⟩, registered⟩, fun i mem ofSame used => ?_⟩
          have among : i ∈ invocations := by
            rw [listed]
            exact List.mem_filter.mpr ⟨mem, decide_eq_true (ofSame.trans ofRun)⟩
          exact List.find?_eq_none.mp none i among (decide_eq_true (used.trans ofAction))
        have step : ∀ m : RuntimeTxn ClaimResult, MovesAt (preparesOnly (ofMessage v.store stored
            action raw (stored.definitionVersion.allowedTools.find? (·.toolId = toolId)))) m v →
            MovesAt (preparesOnly (RunningIntent w.store)) m v :=
          fun m moved => ⟨moved.1, GovernedGrown.mono moved.2 wider⟩
        apply step
        exact MovesAt.bind (MovesAt.catching (prepares_authorizeTool v) moves_toolRefusal)
          fun verdict v' _ => prepares_settleVerdict verdict v'
  | _ => exact Moves.raise _ w

/-- Records are added in a step only for runs that the step has found running. -/
theorem step_governed (s : Sys) (label : Label) :
    GovernedGrown (RunningIntent s.store) s.store (s.step platform label).store := by
  cases label with
  | «open» host request => exact .of_eq rfl
  | advance id input =>
      refine Sys.advance_cases (fun t => GovernedGrown _ s.store t.store) platform s id input
        (fun call found => ?_) ?_
      · show GovernedGrown _ s.shared.world.store
          (s.shared.advance platform call input).shared.world.store
        obtain ⟨number, host, point, frames⟩ := call
        by_cases preparing : .prepare ∈ point.kinds
        · cases point with
          | invoke workspaceId runId action expected =>
              cases input with
              | next => exact (prepares_invokeClaim s.shared.world).2
              | _ => exact .of_eq rfl
          | _ => simp [Point.kinds] at preparing
        · cases advance_effect platform s.shared ⟨number, host, point, frames⟩ input with
          | wrote later moved => exact governedGrown_writes moved preparing
          | dispatched workspaceId runId action expected at' later d governed v same facts =>
              obtain rfl : point = .invoke workspaceId runId action expected := at'
              simp [Point.kinds] at preparing
      · exact .of_eq rfl
  | drop id => exact .of_eq rfl
  | crash => exact .of_eq rfl
  | command command =>
      show GovernedGrown _ s.shared.world.store
        (World.after (command.txn platform s.shared.world)).store
      cases kind : command.operational with
      | true =>
          obtain ⟨⟨o, same⟩, -, -⟩ := (command_operates platform command kind s.shared.world).2
          exact .of_eq ((congrArg RuntimeStore.governed same).trans rfl)
      | false =>
          have noPrepare : .prepare ∉ command.kinds := by
            cases command with
            | domain command => cases command <;> simp [HostCommand.kinds, commandKind]
            | _ => simp [HostCommand.kinds]
          exact governedGrown_writes (command_writes platform command kind s.shared.world).2
            noPrepare
  | restore request =>
      show GovernedGrown _ s.store (s.restored request).store
      have moved := moves_restore request s.shared.world
      unfold Sys.restored
      cases h : Runtime.restore request s.shared.world with
      | ok u w =>
          rw [h] at moved
          obtain ⟨⟨o, same⟩, -, -⟩ := moved.2
          exact .of_eq ((congrArg RuntimeStore.governed same).trans rfl)
      | error e w => exact .of_eq rfl

/-- The step that has a reply of the model prepares no record. -/
theorem reply_governed (s : Sys) (callId : Nat) (reply : Except Exc PyStr)
    (answers : PortAnswers) :
    GovernedGrown who s.store (s.step platform (.advance callId (.model reply answers))).store := by
  refine Sys.advance_cases (fun t => GovernedGrown _ s.store t.store) platform s callId
    (.model reply answers) (fun call found => ?_) ?_
  · show GovernedGrown _ s.shared.world.store
      (s.shared.advance platform call (.model reply answers)).shared.world.store
    obtain ⟨number, host, point, frames⟩ := call
    by_cases preparing : .prepare ∈ point.kinds
    · cases point with
      | invoke workspaceId runId action expected => exact .of_eq rfl
      | _ => simp [Point.kinds] at preparing
    · cases advance_effect platform s.shared ⟨number, host, point, frames⟩
          (.model reply answers) with
      | wrote later moved => exact governedGrown_writes moved preparing
      | dispatched workspaceId runId action expected at' later d governed v same facts =>
          obtain rfl : point = .invoke workspaceId runId action expected := at'
          simp [Point.kinds] at preparing
  · exact .of_eq rfl

end Growing

/-! ## Completed runs -/

/-- Every intent belongs to a stored run of its workspace. -/
def IntentsOwned (s : RuntimeStore) : Prop :=
  ∀ g ∈ s.governed.values, ∃ run, s.runs.get? g.intent.runId = some run ∧
    g.intent.workspaceId = run.workspaceId

/-- Every governed action of a succeeded run has a receipt with an output. -/
def SucceededResolved (s : RuntimeStore) : Prop :=
  ∀ run ∈ s.runs.values, run.status = .succeeded →
    ∀ g ∈ s.governed.values, g.intent.runId = run.id →
      ∃ receipt ∈ s.toolReceipts.values, g.invocationId = some receipt.invocation.id ∧
        receipt.output.isSome = true

section Completed

variable {platform : Platform}

theorem IntentsOwned.step {s : Sys} (h : IntentsOwned s.store) (label : Label) :
    IntentsOwned (s.step platform label).store := by
  intro g mem
  have owner : ∃ run, s.store.runs.get? g.intent.runId = some run ∧
      g.intent.workspaceId = run.workspaceId := by
    rcases step_governed s label g mem with ⟨old, memOld, intent, -⟩ | new
    · exact intent ▸ h old memOld
    · obtain ⟨run, found, -, called⟩ := new.run
      exact ⟨run, found, called.workspace⟩
  obtain ⟨run, found, workspace⟩ := owner
  obtain ⟨next, later, same | ⟨service, -, step⟩⟩ := (step_runs platform s label).later found
  · exact ⟨next, later, same ▸ workspace⟩
  · obtain ⟨at', change, evolved⟩ := step.evolved
    have kept : next.workspaceId = run.workspaceId :=
      (congrArg RunFields.workspaceId evolved.fields).trans rfl
    exact ⟨next, later, workspace.trans kept.symm⟩

theorem receipt_mem_stays (s : Sys) (label : Label) {receipt : ToolReceipt}
    (mem : receipt ∈ s.store.toolReceipts.values) :
    receipt ∈ (s.step platform label).store.toolReceipts.values :=
  Registry.mem_values_of_get? (receipt_stays s label (Registry.get?_of_mem_values mem))

theorem SucceededResolved.step {s : Sys} (owned : IntentsOwned s.store)
    (h : SucceededResolved s.store) (label : Label) :
    SucceededResolved (s.step platform label).store := by
  intro run mem succeeded g memG own
  have found := Registry.get?_of_mem_values mem
  have key : AgentRun.key run = run.id := rfl
  rw [key] at found
  -- A record that was there keeps its claim, and the receipt of the claim stays.
  have kept : ∀ old ∈ s.store.governed.values, old.intent = g.intent →
      (old.invocationId ≠ none → g.invocationId = old.invocationId) →
      (∃ receipt ∈ s.store.toolReceipts.values,
        old.invocationId = some receipt.invocation.id ∧ receipt.output.isSome = true) →
      ∃ receipt ∈ (s.step platform label).store.toolReceipts.values,
        g.invocationId = some receipt.invocation.id ∧ receipt.output.isSome = true := by
    rintro old - - claim ⟨receipt, stored, claimed, output⟩
    refine ⟨receipt, receipt_mem_stays s label stored, ?_, output⟩
    exact (claim (by rw [claimed]; exact Option.some_ne_none _)).trans claimed
  cases (step_runs platform s label).source found with
  | kept present =>
      rcases step_governed s label g memG with ⟨old, memOld, intent, claim⟩ | new
      · apply kept old memOld intent claim
        exact h run (Registry.mem_values_of_get? present) succeeded old memOld (intent ▸ own)
      · obtain ⟨other, foundOther, running, -⟩ := new.run
        rw [own, present] at foundOther
        obtain rfl := Option.some.inj foundOther
        cases running.symm.trans succeeded
  | started allowed facts => cases facts.running.symm.trans succeeded
  | stepped service allowed previous present step =>
      obtain ⟨callId, reply, answers, call, rfl, -, completed⟩ :=
        completion_step present step.open found succeeded
      obtain ⟨at', change, evolved⟩ := step.evolved
      have workspace : run.workspaceId = previous.workspaceId :=
        (congrArg RunFields.workspaceId evolved.fields).trans rfl
      have grown : GovernedGrown (fun _ => False) s.store
          (s.step platform (.advance callId (.model reply answers))).store :=
        reply_governed s callId reply answers
      rcases grown g memG with ⟨old, memOld, intent, claim⟩ | none
      · apply kept old memOld intent claim
        obtain ⟨owner, foundOwner, same⟩ := owned old memOld
        rw [intent, own, present] at foundOwner
        obtain rfl := Option.some.inj foundOwner
        exact completed.resolved old memOld (intent ▸ own) (same.trans workspace.symm)
      · exact none.elim

theorem succeededResolved_after (labels : List Label) :
    SucceededResolved (Sys.after platform labels).store := by
  have both : IntentsOwned (Sys.after platform labels).store ∧
      SucceededResolved (Sys.after platform labels).store := by
    refine Sys.run_keeps (P := fun s => IntentsOwned s.store ∧ SucceededResolved s.store) ?_ ?_
      labels
    · exact fun s label h => ⟨h.1.step label, h.2.step h.1 label⟩
    · constructor
      · intro g mem
        cases mem
      · intro run mem
        cases mem
  exact both.2

/-- A succeeded run was completed by a reply of the model, in a step before. -/
theorem completed_earlier {labels : List Label} {run : AgentRun}
    (mem : run ∈ (Sys.after platform labels).store.runs.values)
    (succeeded : run.status = .succeeded) :
    ∃ before callId reply answers rest call,
      labels = before ++ .advance callId (.model reply answers) :: rest ∧
      CompletedBy platform (Sys.after platform before) callId reply answers call run ∧
      CompletedIn (Sys.after platform before).store call.host run := by
  induction labels using List.reverseRecOn with
  | nil => cases mem
  | append_singleton labels label ih =>
      rw [Sys.after_concat] at mem
      have found := Registry.get?_of_mem_values mem
      cases (step_runs platform (Sys.after platform labels) label).source found with
      | kept present =>
          obtain ⟨before, callId, reply, answers, rest, call, same, step, completed⟩ :=
            ih (Registry.mem_values_of_get? present)
          refine ⟨before, callId, reply, answers, rest ++ [label], call, ?_, step, completed⟩
          rw [same]
          simp
      | started allowed facts => cases facts.running.symm.trans succeeded
      | stepped service allowed previous present step =>
          obtain ⟨callId, reply, answers, call, rfl, completing, completed⟩ :=
            completion_step present step.open found succeeded
          exact ⟨labels, callId, reply, answers, [], call, rfl, completing, completed⟩

end Completed

/-- In every reachable state the governed actions of a succeeded run have receipts with
outputs. The run was completed in one earlier step, in which the drive of this run had the
reply of the model: the run was running before it and is stored as succeeded since. Its brief
was checked against the evidence of that moment: the findings are grounded and have distinct
keys, a required key is a gap exactly when the evidence has no value or several values for
it, and every other required key has a finding. What memory and messages had contributed is
no source of it. -/
theorem completion_gate (platform : Platform) (labels : List Label) :
    (∀ run ∈ (Sys.after platform labels).store.runs.values, run.status = .succeeded →
      ∀ g ∈ (Sys.after platform labels).store.governed.values, g.intent.runId = run.id →
        ∃ receipt ∈ (Sys.after platform labels).store.toolReceipts.values,
          g.invocationId = some receipt.invocation.id ∧
          (Sys.after platform labels).store.toolInvocations.get? receipt.invocation.id =
            some receipt.invocation ∧ receipt.output.isSome = true) ∧
    (∀ run ∈ (Sys.after platform labels).store.runs.values, run.status = .succeeded →
      ∃ before callId reply answers rest call brief,
        labels = before ++ .advance callId (.model reply answers) :: rest ∧
        CompletedBy platform (Sys.after platform before) callId reply answers call run ∧
        run.result = some brief ∧
        CheckedBrief (Grounded (Sys.after platform before).store call.host run)
          run.context.requiredKeys brief) := by
  constructor
  · intro run mem succeeded g memG own
    obtain ⟨receipt, stored, claimed, output⟩ :=
      succeededResolved_after labels run mem succeeded g memG own
    exact ⟨receipt, stored, claimed, (ReceiptsAgree.after platform labels).stored receipt stored,
      output⟩
  · intro run mem succeeded
    obtain ⟨before, callId, reply, answers, rest, call, same, completing, completed⟩ :=
      completed_earlier mem succeeded
    obtain ⟨brief, result, checked⟩ := completed.brief
    exact ⟨before, callId, reply, answers, rest, call, brief, same, completing, result, checked⟩

end AgentCompanyOS.Runtime
