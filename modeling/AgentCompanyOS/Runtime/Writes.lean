import AgentCompanyOS.Domain.Replay
import AgentCompanyOS.Domain.Lineage
import AgentCompanyOS.Runtime.System

/-!
# What a transaction can write

`Write K` lists the single changes of the runtime store, each with what the store's
checks have established, and `K` says which kinds are allowed. Every function of the
services moves the store by writes of the kinds it needs, whether it returns or raises
(`moves_*`); the invariants of the later modules are derived from the constructors of
`Write` and not from the functions. The kinds that a function needs are found by
instance resolution (`Allows`).
-/

set_option autoImplicit false

namespace AgentCompanyOS.Runtime

open Foundation Foundation.Txn Domain

/-! ## Kinds of writes -/

/-- The kinds of changes of the runtime store. -/
inductive Kind where
  | domain | succeed | start | run | audit | action | prepare | review | claim | invocation
  | receipt | policy | config | knowledge
deriving DecidableEq

/-- The kind of a domain command: the success of an attempt is told from the others. -/
def commandKind : Domain.Command → Kind
  | .succeedTaskAttempt .. => .succeed
  | _ => .domain

/-- A command is of one of two kinds. -/
theorem commandKind_mem {command : Domain.Command} {K : List Kind}
    (allowed : commandKind command ∈ K) : .domain ∈ K ∨ .succeed ∈ K := by
  cases command <;> first | exact .inr allowed | exact .inl allowed

/-- The kind `k` is among the allowed ones. -/
class Allows (K : List Kind) (k : Kind) : Prop where
  mem : k ∈ K

instance Allows.head {K : List Kind} {k : Kind} : Allows (k :: K) k := ⟨List.mem_cons_self⟩

instance Allows.tail {K : List Kind} {k k' : Kind} [h : Allows K k] : Allows (k' :: K) k :=
  ⟨List.mem_cons_of_mem _ h.mem⟩

/-- The records that configure a workspace. -/
structure Configuration where
  definitions : Registry AgentDefinitionVersion.key
  tools : Registry ToolRegistration.grant
  graphs : Registry OrganizationGraph.workspaceId
  graphVersions : Registry OrganizationGraphVersion.key
  organizationEvents : List Event

def RuntimeStore.configure (s : RuntimeStore) (c : Configuration) : RuntimeStore :=
  { s with
    definitions := c.definitions
    tools := c.tools
    graphs := c.graphs
    graphVersions := c.graphVersions
    organizationEvents := c.organizationEvents }

/-- A later registration of the same tool version. -/
def ToolRegistration.Kept (r later : ToolRegistration) : Prop := later.toolVersion = r.toolVersion

/-- No registered tool version is replaced by another one. -/
abbrev SameTools (tools later : Registry ToolRegistration.grant) : Prop :=
  tools.Evolves ToolRegistration.Kept later

theorem sameTools_refl (tools : Registry ToolRegistration.grant) : SameTools tools tools :=
  Registry.Evolves.refl (R := ToolRegistration.Kept) (fun _ => rfl) tools

/-- The knowledge records of a store. -/
structure KnowledgeRecords where
  sources : Registry KnowledgeSource.id
  versions : Registry KnowledgeSourceVersion.key
  chunks : Registry ChunkSet.key
  packs : Registry EvidencePack.id
  events : List Event

def RuntimeStore.informed (s : RuntimeStore) (k : KnowledgeRecords) : RuntimeStore :=
  { s with
    knowledgeSources := k.sources
    knowledgeVersions := k.versions
    knowledgeChunks := k.chunks
    evidencePacks := k.packs
    knowledgeEvents := k.events }

/-- The logs of the runtime. -/
structure AuditLogs where
  events : List Event
  observations : Registry Observation.id

def RuntimeStore.audited (s : RuntimeStore) (a : AuditLogs) : RuntimeStore :=
  { s with events := a.events, observations := a.observations }

/-- A changed record keeps its claim, and a claimed one its decisions and its flag. -/
def keepsClaim (old record : GovernedAction) : Prop :=
  record.invocationId = old.invocationId ∧
    (old.invocationId ≠ none → record.decisions = old.decisions ∧ record.cancelled = old.cancelled)

/-- One change of the store. -/
inductive Write (K : List Kind) : RuntimeStore → RuntimeStore → Prop
  | domain (command : Domain.Command) (allowed : commandKind command ∈ K) (s : RuntimeStore)
      (d : DomainStore) (served : Served command s.domain d) :
      Write K s { s with domain := d }
  | start (allowed : .start ∈ K) (s : RuntimeStore) (run : AgentRun)
      (startable : Startable s run) :
      Write K s { s with runs := s.runs.put run }
  | run (allowed : .run ∈ K) (s : RuntimeStore) (previous run : AgentRun)
      (present : s.runs.get? run.id = some previous)
      (evolved : AgentRun.Evolved previous run (run.endedAt.getD run.createdAt) run.asChange)
      (transitions : List StateTransition) :
      Write K s { s with transitions := transitions, runs := s.runs.put run }
  | audit (allowed : .audit ∈ K) (s : RuntimeStore) (a : AuditLogs) : Write K s (s.audited a)
  | action (allowed : .action ∈ K) (s : RuntimeStore) (action : Action)
      (absent : s.actions.get? action.id = none) :
      Write K s { s with actions := s.actions.put action }
  | prepare (allowed : .prepare ∈ K) (s : RuntimeStore) (record : GovernedAction)
      (absent : s.governed.get? record.intent.id = none)
      (savable : GovernedSavable s record none) :
      Write K s { s with governed := s.governed.put record }
  | review (allowed : .review ∈ K) (s : RuntimeStore) (old record : GovernedAction)
      (present : s.governed.get? record.intent.id = some old)
      (history : governedHistory old record) (kept : keepsClaim old record) :
      Write K s { s with governed := s.governed.put record }
  | claim (allowed : .claim ∈ K) (s : RuntimeStore) (old record : GovernedAction)
      (present : s.governed.get? record.intent.id = some old)
      (history : governedHistory old record) :
      Write K s { s with governed := s.governed.put record }
  | invocation (allowed : .invocation ∈ K) (s : RuntimeStore) (run : AgentRun) (action : Action)
      (i : ToolInvocation) (foundRun : s.runs.get? i.runId = some run)
      (foundAction : s.actions.get? i.actionId = some action)
      (new : newInvocation s run action i) :
      Write K s { s with toolInvocations := s.toolInvocations.put i }
  | receipt (allowed : .receipt ∈ K) (s : RuntimeStore) (previous : ToolInvocation)
      (receipt : ToolReceipt) (storable : ReceiptStorable s previous receipt) :
      Write K s { s with
        toolInvocations := s.toolInvocations.put receipt.invocation
        toolReceipts := s.toolReceipts.put receipt }
  | policy (allowed : .policy ∈ K) (s : RuntimeStore) (policy : ApprovalPolicy) :
      Write K s { s with approvalPolicies := s.approvalPolicies.put policy }
  | config (allowed : .config ∈ K) (s : RuntimeStore) (c : Configuration)
      (tools : SameTools s.tools c.tools) :
      Write K s (s.configure c)
  | knowledge (allowed : .knowledge ∈ K) (s : RuntimeStore) (k : KnowledgeRecords) :
      Write K s (s.informed k)

/-- Any number of writes of the allowed kinds. -/
abbrev writes (K : List Kind) : Guarantee RuntimeStore := Guarantee.steps (Write K)

variable {K : List Kind}

/-- What allows more kinds allows the same writes. -/
theorem Write.mono {K' : List Kind} (h : ∀ k ∈ K, k ∈ K') {s s' : RuntimeStore}
    (hw : Write K s s') : Write K' s s' := by
  cases hw with
  | domain command allowed s d served => exact .domain command (h _ allowed) s d served
  | start allowed s run startable => exact .start (h _ allowed) s run startable
  | run allowed s previous run present evolved t =>
      exact .run (h _ allowed) s previous run present evolved t
  | audit allowed s a => exact .audit (h _ allowed) s a
  | action allowed s a absent => exact .action (h _ allowed) s a absent
  | prepare allowed s r absent savable => exact .prepare (h _ allowed) s r absent savable
  | review allowed s old r present history kept =>
      exact .review (h _ allowed) s old r present history kept
  | claim allowed s old r present history => exact .claim (h _ allowed) s old r present history
  | invocation allowed s run a i fr fa new => exact .invocation (h _ allowed) s run a i fr fa new
  | receipt allowed s p r storable => exact .receipt (h _ allowed) s p r storable
  | policy allowed s p => exact .policy (h _ allowed) s p
  | config allowed s c tools => exact .config (h _ allowed) s c tools
  | knowledge allowed s k => exact .knowledge (h _ allowed) s k

theorem moves_widen {K' : List Kind} (h : ∀ k ∈ K, k ∈ K') {α : Type} {m : RuntimeTxn α}
    (hm : Moves (writes K) m) : Moves (writes K') m :=
  hm.mono fun steps => Relation.ReflTransGen.mono (fun _ _ hw => Write.mono h hw) _ _ steps

/-- Writes of the allowed kinds keep what each single one keeps. -/
theorem writes_induct {P : RuntimeStore → Prop} (step : ∀ {s s'}, Write K s s' → P s → P s')
    {s s' : RuntimeStore} (h : Relation.ReflTransGen (Write K) s s') (hs : P s) : P s' := by
  induction h with
  | refl => exact hs
  | tail _ write ih => exact step write ih

/-- A store update that is one write. -/
theorem movesAt_write {f : RuntimeStore → RuntimeStore} {w : World RuntimeStore}
    (h : Write K w.store (f w.store)) : MovesAt (writes K) (modifyStore f : RuntimeTxn Unit) w :=
  MovesAt.modifyStore (Relation.ReflTransGen.single h)

/-- A check followed by a write that it justifies. -/
theorem moves_checked_write {f : RuntimeStore → RuntimeStore} {m : RuntimeTxn Unit}
    (reads : Reads m) (h : ∀ w, m w = .ok () w → Write K w.store (f w.store)) :
    Moves (writes K) (m >>= fun _ => modifyStore f) :=
  fun _ => MovesAt.bind_reads reads fun _ ok => movesAt_write (h _ ok)

/-! ## What a write leaves alone -/

section Frames

variable {s s' : RuntimeStore}

/-- A part of the store that no allowed write changes is as it was. -/
theorem writes_frame {γ : Type} {view : RuntimeStore → γ}
    (step : ∀ {s s'}, Write K s s' → view s' = view s)
    (h : Relation.ReflTransGen (Write K) s s') : view s' = view s :=
  writes_induct (P := fun t => view t = view s) (fun write same => (step write).trans same) h rfl

theorem Write.runs_eq (h : Write K s s') (noStart : .start ∉ K) (noRun : .run ∉ K) :
    s'.runs = s.runs := by
  cases h <;> first | rfl | contradiction

theorem Write.domain_eq (h : Write K s s') (noDomain : .domain ∉ K) (noSucceed : .succeed ∉ K) :
    s'.domain = s.domain := by
  cases h with
  | domain command allowed s d served =>
      rcases commandKind_mem allowed with domain | succeed
      · exact absurd domain noDomain
      · exact absurd succeed noSucceed
  | _ => rfl

theorem Write.toolInvocations_eq (h : Write K s s') (noInvocation : .invocation ∉ K)
    (noReceipt : .receipt ∉ K) : s'.toolInvocations = s.toolInvocations := by
  cases h <;> first | rfl | contradiction

theorem Write.governed_eq (h : Write K s s') (noPrepare : .prepare ∉ K) (noReview : .review ∉ K)
    (noClaim : .claim ∉ K) : s'.governed = s.governed := by
  cases h <;> first | rfl | contradiction

theorem Write.approvalPolicies_eq (h : Write K s s') (noPolicy : .policy ∉ K) :
    s'.approvalPolicies = s.approvalPolicies := by
  cases h <;> first | rfl | contradiction

/-- No service writes the operational tables. -/
theorem Write.operational_eq (h : Write K s s') :
    s'.modes = s.modes ∧ s'.holds = s.holds ∧ s'.incidents = s.incidents := by
  cases h <;> exact ⟨rfl, rfl, rfl⟩

end Frames

/-! ## The store's writes -/

section Store

/-- A command moves the domain store by served steps. -/
theorem moves_served (env : Env) (command : Domain.Command) :
    Moves (Guarantee.steps (Served command)) (command.issue env) := fun w => by
  refine ⟨(moves_issue env command w).1, ?_⟩
  show Relation.ReflTransGen _ w.store (World.after (command.issue env w)).store
  rcases command.after_issue env w with same | served
  · rw [same]
  · exact .single served

/-- Served steps of the domain part are writes of the whole store. -/
theorem writes_served {command : Domain.Command} (allowed : commandKind command ∈ K)
    (s : RuntimeStore) {d : DomainStore}
    (steps : Relation.ReflTransGen (Served command) s.domain d) :
    Relation.ReflTransGen (Write K) s { s with domain := d } := by
  induction steps with
  | refl => exact .refl
  | @tail earlier d _ served ih =>
      exact ih.tail (.domain command allowed { s with domain := earlier } d served)

/-- The service of a command inside a transaction. -/
theorem moves_inDomain {command : Domain.Command} (allowed : commandKind command ∈ K) {α : Type}
    {m : DomainTxn α} (hm : Moves (Guarantee.steps (Served command)) m) :
    Moves (writes K) (inDomain m) :=
  Moves.zoom hm fun w _ _ _ steps => writes_served allowed w.store steps

theorem moves_appendEvent [a : Allows K .audit] (event : Event) :
    Moves (writes K) (appendEvent event) :=
  moves_checked_write (reads_checkEvent event) fun w _ =>
    .audit a.mem w.store ⟨w.store.events ++ [event], w.store.observations⟩

theorem moves_appendObservation [a : Allows K .audit] (observation : Observation) :
    Moves (writes K) (appendObservation observation) :=
  moves_checked_write (reads_checkObservation observation) fun w _ =>
    .audit a.mem w.store ⟨w.store.events, w.store.observations.put observation⟩

theorem moves_appendAction [a : Allows K .action] (action : Action) :
    Moves (writes K) (appendAction action) :=
  moves_checked_write (reads_checkAction action) fun w ok =>
    .action a.mem w.store action (checkAction_eq_ok ok)

theorem moves_addRun [a : Allows K .start] (run : AgentRun) : Moves (writes K) (addRun run) :=
  Moves.atomic (moves_checked_write (reads_checkAddRun run) fun w ok =>
    .start a.mem w.store run (checkAddRun_startable ok))

theorem moves_saveRun [a : Allows K .run] (run : AgentRun) (expectedVersion : Version)
    (transition : Option StateTransition) :
    Moves (writes K) (saveRun run expectedVersion transition) :=
  Moves.atomic (moves_checked_write (reads_checkSaveRun run _ _) fun w ok =>
    have ⟨previous, present, _, evolved⟩ := checkSaveRun_eq_ok ok
    .run a.mem w.store previous run present evolved _)

theorem moves_publishApprovalPolicy [a : Allows K .policy] (policy : ApprovalPolicy) :
    Moves (writes K) (publishApprovalPolicy policy) :=
  Moves.atomic (moves_checked_write (reads_checkApprovalPolicy policy) fun w _ =>
    .policy a.mem w.store policy)

theorem moves_publishDefinition [a : Allows K .config] (definition : AgentDefinitionVersion) :
    Moves (writes K) (publishDefinition definition) :=
  Moves.atomic (moves_checked_write (reads_checkDefinition definition) fun w _ =>
    .config a.mem w.store ⟨w.store.definitions.put definition, w.store.tools, w.store.graphs,
      w.store.graphVersions, w.store.organizationEvents⟩ (sameTools_refl _))

/-- A record saved without an expected version is a new one. -/
theorem moves_saveGoverned_new [a : Allows K .prepare] (record : GovernedAction) :
    Moves (writes K) (saveGovernedAction record none) :=
  Moves.atomic (moves_checked_write (reads_checkGoverned record none) fun w ok => by
    have savable := checkGoverned_eq_ok ok
    have absent : w.store.governed.get? record.intent.id = none := by
      have history := savable.history
      cases stored : w.store.governed.get? record.intent.id with
      | none => rfl
      | some old =>
          rw [stored] at history
          cases history.1
    exact .prepare a.mem w.store record absent savable)

theorem governedHistory_of_ok {record : GovernedAction} {expected : Version}
    {w w' : World RuntimeStore} (ok : checkGoverned record (some expected) w = .ok () w') :
    ∃ old, w.store.governed.get? record.intent.id = some old ∧ old.version = expected ∧
      governedHistory old record := by
  have history := (checkGoverned_eq_ok ok).history
  cases stored : w.store.governed.get? record.intent.id with
  | none =>
      rw [stored] at history
      cases history.2.1
  | some old =>
      rw [stored] at history
      exact ⟨old, rfl, Option.some.inj history.1, history.2⟩

theorem moves_saveGoverned_claim [a : Allows K .claim] (record : GovernedAction)
    (expected : Version) : Moves (writes K) (saveGovernedAction record (some expected)) :=
  Moves.atomic (moves_checked_write (reads_checkGoverned record _) fun w ok =>
    have ⟨old, present, _, history⟩ := governedHistory_of_ok ok
    .claim a.mem w.store old record present history)

/-- A stored record saved again without a new claim. -/
theorem movesAt_saveGoverned_review [a : Allows K .review] {old record : GovernedAction}
    {expected : Version} {w : World RuntimeStore}
    (present : w.store.governed.get? old.intent.id = some old)
    (kept : keepsClaim old record) (sameIntent : record.intent = old.intent) :
    MovesAt (writes K) (saveGovernedAction record (some expected)) w :=
  MovesAt.atomic (MovesAt.bind_reads (reads_checkGoverned record _) fun _ ok => by
    obtain ⟨stored, found, -, history⟩ := governedHistory_of_ok ok
    rw [sameIntent, present] at found
    obtain rfl := Option.some.inj found
    exact movesAt_write (.review a.mem w.store old record (by rw [sameIntent]; exact present)
      history kept))

theorem moves_addToolInvocation [a : Allows K .invocation] (i : ToolInvocation) :
    Moves (writes K) (addToolInvocation i) :=
  Moves.atomic (moves_checked_write (reads_checkInvocation i) fun w ok =>
    have ⟨run, action, foundRun, foundAction, new⟩ := checkInvocation_eq_ok ok
    .invocation a.mem w.store run action i foundRun foundAction new)

theorem moves_finishToolInvocation [a : Allows K .receipt] (receipt : ToolReceipt) :
    Moves (writes K) (finishToolInvocation receipt) :=
  Moves.atomic (moves_checked_write (reads_checkReceipt receipt) fun w ok =>
    have ⟨previous, storable⟩ := checkReceipt_eq_ok ok
    .receipt a.mem w.store previous receipt storable)

end Store

end AgentCompanyOS.Runtime
