import AgentCompanyOS.Foundation.Comparing
import AgentCompanyOS.Orchestration.Audit
import AgentCompanyOS.Orchestration.Recovery
import AgentCompanyOS.Orchestration.Width

/-!
# Workspaces are isolated in audit queries

Two states that have the same records and events of a workspace (`SameIn`) answer every
audit query for it alike, whatever else they hold: the same views, or an exception of the
domain in both (`audit_isolation`). A query reads lists of the workspace and records under
them, and a record under one of the workspace is of the workspace itself (`Sited`).
-/

set_option autoImplicit false

namespace AgentCompanyOS.Orchestration

open Foundation Foundation.Txn Domain AgentCompanyOS.Runtime

/-! ## Two states from one workspace -/

/-- Two states with the same records and events of a workspace, in any order. -/
structure SameIn (workspaceId : WorkspaceId) (s t : OrchestrationStore) : Prop where
  workspace : s.runtime.domain.workspaces.get? workspaceId =
    t.runtime.domain.workspaces.get? workspaceId
  goals : SameWhere (fun g : Goal => g.workspaceId = workspaceId)
    s.runtime.domain.goals.values t.runtime.domain.goals.values
  tasks : SameWhere (fun task : Task => task.workspaceId = workspaceId)
    s.runtime.domain.tasks.values t.runtime.domain.tasks.values
  attempts : SameWhere (fun a : TaskAttempt => a.workspaceId = workspaceId)
    s.runtime.domain.attempts.values t.runtime.domain.attempts.values
  executions : SameWhere (fun e : Execution => e.workspaceId = workspaceId)
    s.runtime.domain.executions.values t.runtime.domain.executions.values
  domainEvents : SameWhere (fun e : Event => e.workspaceId = workspaceId)
    s.runtime.domain.events t.runtime.domain.events
  runs : SameWhere (fun run : AgentRun => run.workspaceId = workspaceId)
    s.runtime.runs.values t.runtime.runs.values
  governed : SameWhere (fun g : GovernedAction => g.intent.workspaceId = workspaceId)
    s.runtime.governed.values t.runtime.governed.values
  calls : SameWhere (fun i : ToolInvocation => i.workspaceId = workspaceId)
    s.runtime.toolInvocations.values t.runtime.toolInvocations.values
  receipts : SameWhere (fun r : ToolReceipt => r.invocation.workspaceId = workspaceId)
    s.runtime.toolReceipts.values t.runtime.toolReceipts.values
  runtimeEvents : SameWhere (fun e : Event => e.workspaceId = workspaceId)
    s.runtime.events t.runtime.events
  knowledgeEvents : SameWhere (fun e : Event => e.workspaceId = workspaceId)
    s.runtime.knowledgeEvents t.runtime.knowledgeEvents
  graph : s.runtime.graphs.get? workspaceId = t.runtime.graphs.get? workspaceId
  organizationEvents : SameWhere (fun e : Event => e.workspaceId = workspaceId)
    s.runtime.organizationEvents t.runtime.organizationEvents
  orchestrations : SameWhere (fun run : OrchestrationRun => run.workspaceId = workspaceId)
    s.runs.values t.runs.values
  plans : SameWhere (fun plan : PlanVersion => plan.workspaceId = workspaceId)
    s.plans.values t.plans.values
  delegations : SameWhere (fun d : Delegation => d.workspaceId = workspaceId)
    s.delegations.values t.delegations.values
  orchestrationEvents : SameWhere (fun e : Event => e.workspaceId = workspaceId)
    s.events t.events

/-- Sources of one kind with the same events of a workspace. -/
inductive SameSource (workspaceId : WorkspaceId) : AuditEventSource → AuditEventSource → Prop
  | knowledge : SameSource workspaceId .knowledge .knowledge
  | organization : SameSource workspaceId .organization .organization
  | beside {log log' : List Event}
      (events : SameWhere (fun e : Event => e.workspaceId = workspaceId) log log') :
      SameSource workspaceId (.beside log) (.beside log')

/-- The service on two states. -/
structure SameService (workspaceId : WorkspaceId) (service service' : AuditQueryService) :
    Prop where
  sources : List.Forall₂ (SameSource workspaceId) service.sources service'.sources
  attached : service.attached = service'.attached

/-- Exceptions that the domain defines. -/
def Refusal (e : Exc) : Prop := ∃ d, e = .domain d

/-- Every record has its parent in the store, in its own workspace. -/
structure Sited (s : OrchestrationStore) : Prop where
  traced : Traced s.runtime
  ledger : Ledger s
  linkage : Linkage s

theorem sited_after (platform : Platform) (labels : List Label) :
    Sited (Company.after platform labels).store :=
  ⟨traced_after platform labels, (after_sound platform labels).ledger,
    after_linkage platform labels⟩

section Queries

variable {workspaceId : WorkspaceId} {s t : OrchestrationStore}

theorem SameIn.refl (workspaceId : WorkspaceId) (s : OrchestrationStore) :
    SameIn workspaceId s s := by
  constructor <;> first | rfl | exact fun _ _ => Iff.rfl

theorem SameService.refl (workspaceId : WorkspaceId) (service : AuditQueryService) :
    SameService workspaceId service service := by
  refine ⟨List.forall₂_same.mpr ?_, rfl⟩
  intro source _
  cases source with
  | knowledge => exact .knowledge
  | organization => exact .organization
  | beside log => exact .beside fun _ _ => Iff.rfl

/-! ## Statements of the queries -/

theorem alike_inRuntime {α β : Type} {m : RuntimeTxn α} {n : RuntimeTxn β} {R : α → β → Prop}
    (h : Alike Refusal s.runtime t.runtime m n R) :
    Alike Refusal s t (inRuntime m) (inRuntime n) R :=
  .zoom rfl rfl h

theorem alike_inDomain {α β : Type} {a b : RuntimeStore} {m : DomainTxn α} {n : DomainTxn β}
    {R : α → β → Prop} (h : Alike Refusal a.domain b.domain m n R) :
    Alike Refusal a b (inDomain m) (inDomain n) R :=
  .zoom rfl rfl h

theorem alike_getWorkspace (same : SameIn workspaceId s t) :
    Alike Refusal s.runtime.domain t.runtime.domain (getWorkspace workspaceId)
      (getWorkspace workspaceId) fun _ _ => True := by
  refine Alike.getStore.bind ?_
  rintro _ _ ⟨rfl, rfl⟩
  refine .need ⟨_, rfl⟩ ⟨_, rfl⟩ (fun _ _ _ _ => trivial) ?_
  exact Eq.congr_left same.workspace

/-- A list that is read after the workspace has been found. -/
theorem alike_listed {α : Type} (same : SameIn workspaceId s t) (view : RuntimeStore → α) :
    Alike Refusal s.runtime t.runtime
      (do
        let _ ← inDomain (getWorkspace workspaceId)
        let store ← getStore
        pure (view store) : RuntimeTxn α)
      (do
        let _ ← inDomain (getWorkspace workspaceId)
        let store ← getStore
        pure (view store) : RuntimeTxn α)
      fun a b => a = view s.runtime ∧ b = view t.runtime := by
  refine (alike_inDomain (alike_getWorkspace same)).bind fun _ _ _ => Alike.getStore.bind ?_
  rintro _ _ ⟨rfl, rfl⟩
  exact .pure ⟨rfl, rfl⟩

theorem answers_inGoals {α : Type} {m : DomainTxn α} {S : Except Exc α → Prop}
    (h : Answers s.runtime.domain m S) : Answers s (inGoals m) S := by
  have inside : Answers s.runtime (inDomain m) S := h.zoom rfl
  have outside : Answers s (inRuntime (inDomain m)) S := inside.zoom rfl
  exact outside

/-- What `_get` answers. -/
theorem answers_getEntity {E : Type} {kind : IdKind} [Entity E kind] [Table E kind]
    (s : OrchestrationStore) (id : OpaqueId kind) :
    Answers s (inGoals (getEntity E id)) fun r =>
      r = ((Table.table (E := E) s.runtime.domain).get? id).elim
        (.error (.domain (.entityNotFound (py (Entity.typeName E)) id.value))) .ok := by
  have asked : Answers s.runtime.domain (getEntity E id) fun r =>
      r = ((Table.table (E := E) s.runtime.domain).get? id).elim
        (.error (.domain (.entityNotFound (py (Entity.typeName E)) id.value))) .ok := by
    refine Answers.getStore.bind ?_ nofun
    rintro _ ⟨⟩
    exact .need _ _
  exact answers_inGoals asked

/-- A query starts with an entity and its scope. It is refused in both states, or the
entity is of the workspace in both. -/
theorem alike_owned {E α : Type} {get : OrchestrationTxn E} {of : E → WorkspaceId}
    {o p : Option E} {e f : DomainError} {m n : OrchestrationTxn α} {R : α → α → Prop}
    (first : Answers s get (· = o.elim (.error (.domain e)) .ok))
    (second : Answers t get (· = p.elim (.error (.domain f)) .ok))
    (same : (∃ x ∈ o, of x = workspaceId) ↔ ∃ y ∈ p, of y = workspaceId)
    (rest : (∃ x ∈ o, of x = workspaceId) → Alike Refusal s t m n R) :
    Alike Refusal s t (get >>= fun x => auditScope workspaceId (of x) >>= fun _ => m)
      (get >>= fun y => auditScope workspaceId (of y) >>= fun _ => n) R :=
  .guarded first second ⟨⟨e, rfl⟩, ⟨f, rfl⟩⟩ (fun _ => ⟨_, rfl⟩) (fun _ => ne_comm) same
    fun x found _ _ here _ => rest ⟨x, found, here⟩

/-! ## Selecting events -/

/-- Two different events have one identifier. -/
def Clash (events : List Event) : Prop := ∃ a ∈ events, ∃ b ∈ events, a.id = b.id ∧ a ≠ b

/-- What a selection from some events has to be. -/
def SelectedFrom (events : List Event) : Except DomainError (Registry Event.id) → Prop
  | .ok d => ¬Clash events ∧ SameMembers d.values events
  | .error _ => Clash events

theorem Clash.congr {xs ys : List Event} (same : SameMembers xs ys) : Clash xs ↔ Clash ys := by
  simp only [Clash, same _]

theorem SelectedFrom.congr {xs ys : List Event} {r : Except DomainError (Registry Event.id)}
    (same : SameMembers xs ys) (h : SelectedFrom xs r) : SelectedFrom ys r := by
  cases r with
  | error e => exact (Clash.congr same).mp h
  | ok d =>
      refine ⟨fun clash => h.1 ((Clash.congr same).mpr clash), ?_⟩
      intro a
      exact (h.2 a).trans (same a)

/-- By induction on the events: the selection has those that concern the query, and is
refused exactly when two of them clash. -/
theorem selectEvents_selected (identities : List PyStr) {events : List Event}
    (own : ∀ e ∈ events, e.workspaceId = workspaceId) (selected : Registry Event.id) :
    SelectedFrom (selected.values ++ events.filter (concerns identities))
      (selectEvents workspaceId identities events selected) := by
  induction events generalizing selected with
  | nil =>
      refine ⟨?_, ?_⟩
      · rintro ⟨a, memA, b, memB, same, other⟩
        rw [List.filter_nil, List.append_nil] at memA memB
        exact other (Registry.eq_of_key memA memB same)
      · rw [List.filter_nil, List.append_nil]
        exact .refl _
  | cons event rest ih =>
      have here : event.workspaceId = workspaceId := own event List.mem_cons_self
      have others : ∀ e ∈ rest, e.workspaceId = workspaceId :=
        fun e mem => own e (List.mem_cons_of_mem _ mem)
      unfold selectEvents
      rw [if_neg (not_not_intro here.symm)]
      by_cases concerned : concerns identities event = true
      · rw [if_pos concerned, List.filter_cons_of_pos concerned]
        by_cases collision : ∃ other ∈ selected.get? event.id, other ≠ event
        · rw [if_pos collision]
          obtain ⟨other, found, different⟩ := collision
          have key : other.id = event.id := Registry.key_of_get? found
          have stored := Registry.mem_values_of_get? found
          exact ⟨other, List.mem_append_left _ stored, event,
            List.mem_append_right _ List.mem_cons_self, key, different⟩
        · rw [if_neg collision]
          -- Filing the event adds it, or finds it there.
          refine (ih others (selected.put event)).congr ?_
          intro a
          simp only [List.mem_append, List.mem_cons, Registry.mem_values_put]
          constructor
          · rintro ((rfl | ⟨mem, -⟩) | mem)
            · exact .inr (.inl rfl)
            · exact .inl mem
            · exact .inr (.inr mem)
          · rintro (mem | rfl | mem)
            · by_cases same : a = event
              · exact .inl (.inl same)
              · refine .inl (.inr ⟨mem, ?_⟩)
                intro key
                have found : selected.get? event.id = some a :=
                  key ▸ Registry.get?_of_mem_values mem
                exact collision ⟨a, found, same⟩
            · exact .inl (.inl rfl)
            · exact .inr mem
      · rw [if_neg concerned, List.filter_cons_of_neg concerned]
        exact ih others selected

theorem concerns_congr {identities identities' : List PyStr}
    (same : SameMembers identities identities') : concerns identities = concerns identities' := by
  funext event
  simp only [concerns, same _]

theorem alike_selectEvents {identities identities' : List PyStr} {events events' : List Event}
    (named : SameMembers identities identities') (same : SameMembers events events')
    (own : ∀ e ∈ events, e.workspaceId = workspaceId) :
    Alike Refusal s t (checked (selectEvents workspaceId identities events Registry.empty))
      (checked (selectEvents workspaceId identities' events' Registry.empty))
      fun d d' => SameMembers d.values d'.values ∧ ∀ e ∈ d.values, e ∈ events := by
  have own' : ∀ e ∈ events', e.workspaceId = workspaceId := fun e mem => own e ((same e).mpr mem)
  have first := selectEvents_selected identities own Registry.empty
  have second := selectEvents_selected identities' own' Registry.empty
  have concerned : SameMembers (events'.filter (concerns identities'))
      (events.filter (concerns identities)) := by
    rw [concerns_congr named]
    exact same.symm.filter _
  replace second := second.congr concerned
  cases one : selectEvents workspaceId identities events Registry.empty with
  | error e =>
      rw [one] at first
      cases other : selectEvents workspaceId identities' events' Registry.empty with
      | error f => exact .raise ⟨e, rfl⟩ ⟨f, rfl⟩
      | ok d =>
          rw [other] at second
          exact absurd first second.1
  | ok d =>
      rw [one] at first
      cases other : selectEvents workspaceId identities' events' Registry.empty with
      | error f =>
          rw [other] at second
          exact absurd second first.1
      | ok d' =>
          rw [other] at second
          refine .pure ⟨fun a => (first.2 a).trans (second.2 a).symm, ?_⟩
          intro e mem
          exact (List.mem_filter.mp ((first.2 e).mp mem)).1

/-! ## Timelines -/

/-- The log of a source. -/
def AuditEventSource.log (s : RuntimeStore) : AuditEventSource → List Event
  | .knowledge => s.knowledgeEvents
  | .organization => s.organizationEvents
  | .beside log => log

/-- The logs that a timeline is made from. -/
def AuditQueryService.logs (service : AuditQueryService) (s : OrchestrationStore) : List Event :=
  s.runtime.domain.events ++ s.runtime.events ++
    service.sources.flatMap (AuditEventSource.log s.runtime) ++
    if service.attached = true then s.events else []

/-- A timeline has events of its workspace only, each once, in the order of time and then
of the identifiers. -/
structure TimelineOf (s : OrchestrationStore) (service : AuditQueryService)
    (workspaceId : WorkspaceId) (entries : List TimelineEntry) : Prop where
  own : ∀ entry ∈ entries, entry.workspaceId = workspaceId ∧
    ∃ event ∈ service.logs s, entry = timelineEntry event
  once : (entries.map TimelineEntry.eventId).Nodup
  ordered : entries.Pairwise fun a b => a.timestamp < b.timestamp ∨
    a.timestamp = b.timestamp ∧ a.eventId.value < b.eventId.value

/-- The events that a statement of `_timeline` has read in the two states. -/
def EventsOf (workspaceId : WorkspaceId) (logs : List Event) (xs ys : List Event) : Prop :=
  SameMembers xs ys ∧ ∀ e ∈ xs, e.workspaceId = workspaceId ∧ e ∈ logs

theorem EventsOf.nil (logs : List Event) : EventsOf workspaceId logs [] [] := by
  refine ⟨.refl _, ?_⟩
  intro e mem
  cases mem

theorem mem_eventsIn {e : Event} {log : List Event} :
    e ∈ eventsIn workspaceId log ↔ e ∈ log ∧ e.workspaceId = workspaceId := by
  rw [eventsIn, List.mem_filter, decide_eq_true_eq]

theorem eventsOf_eventsIn {log log' logs : List Event}
    (same : SameWhere (fun e : Event => e.workspaceId = workspaceId) log log')
    (within : ∀ e ∈ log, e ∈ logs) :
    EventsOf workspaceId logs (eventsIn workspaceId log) (eventsIn workspaceId log') := by
  refine ⟨same.filter, ?_⟩
  intro e mem
  obtain ⟨stored, here⟩ := mem_eventsIn.mp mem
  exact ⟨here, within e stored⟩

theorem EventsOf.append {logs a b c d : List Event} (first : EventsOf workspaceId logs a b)
    (second : EventsOf workspaceId logs c d) : EventsOf workspaceId logs (a ++ c) (b ++ d) := by
  refine ⟨first.1.append second.1, ?_⟩
  intro e mem
  rcases List.mem_append.mp mem with mem | mem
  · exact first.2 e mem
  · exact second.2 e mem

theorem alike_sourceEvents (same : SameIn workspaceId s t) {logs : List Event}
    {a b : AuditEventSource} (kinds : SameSource workspaceId a b)
    (within : ∀ e ∈ a.log s.runtime, e ∈ logs) :
    Alike Refusal s.runtime t.runtime (a.events workspaceId) (b.events workspaceId)
      (EventsOf workspaceId logs) := by
  cases kinds with
  | knowledge =>
      refine (alike_listed same fun store => eventsIn workspaceId store.knowledgeEvents).mono ?_
      rintro _ _ ⟨rfl, rfl⟩
      exact eventsOf_eventsIn same.knowledgeEvents within
  | organization =>
      have graph : Alike Refusal s.runtime t.runtime (getGraph workspaceId)
          (getGraph workspaceId) fun _ _ => True := by
        refine (alike_inDomain (alike_getWorkspace same)).bind fun _ _ _ =>
          Alike.getStore.bind ?_
        rintro _ _ ⟨rfl, rfl⟩
        refine .need ⟨_, rfl⟩ ⟨_, rfl⟩ (fun _ _ _ _ => trivial) ?_
        exact Eq.congr_left same.graph
      refine graph.bind fun _ _ _ => Alike.getStore.bind ?_
      rintro _ _ ⟨rfl, rfl⟩
      exact .pure (eventsOf_eventsIn same.organizationEvents within)
  | beside events =>
      refine (alike_inDomain (alike_getWorkspace same)).bind fun _ _ _ => .pure ?_
      exact eventsOf_eventsIn events within

theorem alike_attachedEvents (same : SameIn workspaceId s t) {logs : List Event} {attached : Bool}
    (within : attached = true → ∀ e ∈ s.events, e ∈ logs) :
    Alike Refusal s t (attachedEvents attached workspaceId) (attachedEvents attached workspaceId)
      (EventsOf workspaceId logs) := by
  unfold attachedEvents
  by_cases has : attached = true
  · rw [if_pos has]
    refine (alike_inRuntime (alike_inDomain (alike_getWorkspace same))).bind fun _ _ _ =>
      Alike.getStore.bind ?_
    rintro _ _ ⟨rfl, rfl⟩
    exact .pure (eventsOf_eventsIn same.orchestrationEvents (within has))
  · rw [if_neg has]
    exact .pure (.nil logs)

/-- The entries of a selection, as the service sorts and shows them. -/
theorem timelineOf_selected {service : AuditQueryService} {d : Registry Event.id}
    (own : ∀ e ∈ d.values, e.workspaceId = workspaceId ∧ e ∈ service.logs s) :
    TimelineOf s service workspaceId ((sortedBy eventKey d.values).map timelineEntry) := by
  have once : ((sortedBy eventKey d.values).map Event.id).Nodup := nodup_map_sortedBy d.nodup
  constructor
  · intro entry mem
    obtain ⟨event, listed, rfl⟩ := List.mem_map.mp mem
    obtain ⟨here, logged⟩ := own event (mem_sortedBy.mp listed)
    exact ⟨here, event, logged, rfl⟩
  · rw [List.map_map]
    exact once
  · rw [List.pairwise_map]
    have apart := List.pairwise_map.mp once
    refine ((sortedBy_pairwise eventKey d.values).and apart).imp ?_
    rintro a b ⟨before, other⟩
    rcases (Prod.Lex.toLex_le_toLex).mp before with earlier | ⟨together, le⟩
    · exact .inl earlier
    · refine .inr ⟨together, lt_of_le_of_ne le ?_⟩
      intro value
      exact other (OpaqueId.ext_value value)

theorem nodup_eventKey (d : Registry Event.id) : (d.values.map eventKey).Nodup := by
  have ids : (d.values.map Event.id).Nodup := d.nodup
  rw [List.Nodup, List.pairwise_map] at ids ⊢
  refine ids.imp ?_
  intro a b other same
  exact other (OpaqueId.ext_value (Prod.mk.inj (toLex_inj.mp same)).2)

/-- Asked for the same identities, the timelines are the same. -/
theorem alike_timeline (same : SameIn workspaceId s t) {service service' : AuditQueryService}
    (serving : SameService workspaceId service service') {identities identities' : List PyStr}
    (named : SameMembers identities identities') :
    Alike Refusal s t (service.timeline workspaceId identities)
      (service'.timeline workspaceId identities')
      fun a b => a = b ∧ TimelineOf s service workspaceId a := by
  unfold AuditQueryService.timeline
  rw [← serving.attached]
  refine (alike_inRuntime (alike_inDomain (alike_getWorkspace same))).bind fun _ _ _ => ?_
  have domain : Alike Refusal s t (inGoals (domainEvents workspaceId))
      (inGoals (domainEvents workspaceId)) (EventsOf workspaceId (service.logs s)) := by
    refine alike_inRuntime (alike_inDomain (Alike.getStore.bind ?_))
    rintro _ _ ⟨rfl, rfl⟩
    refine .pure (eventsOf_eventsIn same.domainEvents ?_)
    intro e mem
    simp [AuditQueryService.logs, mem]
  have runtime : Alike Refusal s t (inRuntime (runtimeEvents workspaceId))
      (inRuntime (runtimeEvents workspaceId)) (EventsOf workspaceId (service.logs s)) := by
    refine alike_inRuntime (Alike.getStore.bind ?_)
    rintro _ _ ⟨rfl, rfl⟩
    refine .pure (eventsOf_eventsIn same.runtimeEvents ?_)
    intro e mem
    simp [AuditQueryService.logs, mem]
  have others : Alike Refusal s t
      (inRuntime (gather service.sources (AuditEventSource.events workspaceId)))
      (inRuntime (gather service'.sources (AuditEventSource.events workspaceId)))
      (EventsOf workspaceId (service.logs s)) := by
    refine alike_inRuntime (.gather (.nil _) (fun _ _ _ _ one other =>
      one.append other) ?_)
    have listed := (List.forall₂_and_left _ _).mpr ⟨fun source mem => mem, serving.sources⟩
    refine listed.imp ?_
    rintro a b ⟨mem, kinds⟩
    refine alike_sourceEvents same kinds ?_
    intro e logged
    have among : e ∈ service.sources.flatMap (AuditEventSource.log s.runtime) :=
      List.mem_flatMap.mpr ⟨a, mem, logged⟩
    simp [AuditQueryService.logs, among]
  have orchestration : Alike Refusal s t (attachedEvents service.attached workspaceId)
      (attachedEvents service.attached workspaceId) (EventsOf workspaceId (service.logs s)) := by
    refine alike_attachedEvents same ?_
    intro has e mem
    simp [AuditQueryService.logs, has, mem]
  refine domain.bind fun a a' first => runtime.bind fun b b' second =>
    others.bind fun c c' third => orchestration.bind fun d d' fourth => ?_
  have together := ((first.append second).append third).append fourth
  refine (alike_selectEvents named together.1 fun e mem => (together.2 e mem).1).bind ?_
  rintro x y ⟨values, among⟩
  refine .pure ⟨?_, timelineOf_selected fun e mem => together.2 e (among e mem)⟩
  rw [values.sortedBy_eq (nodup_eventKey x) (nodup_eventKey y)]

/-! ## Records under a record of the workspace -/

/-- A record of the workspace is found in both states. -/
theorem owned_iff {κ υ : Type} [DecidableEq κ] {key : υ → κ} {d e : Registry key}
    {p : υ → Prop} (same : SameWhere p d.values e.values) (k : κ) :
    (∃ x ∈ d.get? k, p x) ↔ ∃ y ∈ e.get? k, p y := by
  have found {d e : Registry key} (same : SameWhere p d.values e.values)
      (h : ∃ x ∈ d.get? k, p x) : ∃ y ∈ e.get? k, p y := by
    obtain ⟨x, stored, here⟩ := h
    have mem := (same x here).mp (Registry.mem_values_of_get? stored)
    have filed : e.get? (key x) = some x := Registry.get?_of_mem_values mem
    rw [Registry.key_of_get? stored] at filed
    exact ⟨x, filed, here⟩
  exact ⟨found same, found same.symm⟩

/-- A record that the runtime store looks up for a workspace. -/
theorem alike_scoped {κ υ : Type} [DecidableEq κ] {key : υ → κ}
    (view : RuntimeStore → Registry key) (of : υ → WorkspaceId)
    (same : SameWhere (fun x => of x = workspaceId) (view s.runtime).values
      (view t.runtime).values) (k : κ) (e : DomainError) :
    Alike Refusal s.runtime t.runtime
      (do
        let store ← getStore
        let record ← need ((view store).get? k) (.domain e)
        scope workspaceId (of record)
        pure record : RuntimeTxn υ)
      (do
        let store ← getStore
        let record ← need ((view store).get? k) (.domain e)
        scope workspaceId (of record)
        pure record : RuntimeTxn υ) Eq := by
  refine Alike.getStore.bind ?_
  rintro _ _ ⟨rfl, rfl⟩
  refine .guarded (Answers.need _ _) (Answers.need _ _) ⟨⟨e, rfl⟩, ⟨e, rfl⟩⟩ (fun _ => ⟨_, rfl⟩)
    (fun _ => ne_comm) (owned_iff same k) ?_
  intro x found y found' here _
  have mem := (same x here).mp (Registry.mem_values_of_get? found)
  exact .pure (Registry.eq_of_key mem (Registry.mem_values_of_get? found')
    ((Registry.key_of_get? found).trans (Registry.key_of_get? found').symm))

namespace Sited

variable (h : Sited s)

include h

theorem task {goalId : GoalId}
    (own : ∃ g ∈ s.runtime.domain.goals.get? goalId, g.workspaceId = workspaceId) :
    ∀ task ∈ s.runtime.domain.tasks.values, task.goalId = goalId →
      task.workspaceId = workspaceId := by
  intro task mem under
  obtain ⟨goal, found, here⟩ := own
  obtain ⟨parent, stored, scope⟩ := h.traced.linked.task task mem
  rw [under] at stored
  obtain rfl : parent = goal := Option.some.inj (stored.symm.trans found)
  exact scope.symm.trans here

theorem attempt {taskId : TaskId}
    (own : ∃ task ∈ s.runtime.domain.tasks.get? taskId, task.workspaceId = workspaceId) :
    ∀ a ∈ s.runtime.domain.attempts.values, a.taskId = taskId →
      a.workspaceId = workspaceId := by
  intro a mem under
  obtain ⟨task, found, here⟩ := own
  obtain ⟨parent, -, stored, -, scope, -⟩ := h.traced.linked.attempt a mem
  rw [under] at stored
  obtain rfl : parent = task := Option.some.inj (stored.symm.trans found)
  exact scope.symm.trans here

theorem call {run : AgentRun} (listed : run ∈ runsIn s.runtime workspaceId) :
    ∀ i ∈ s.runtime.toolInvocations.values, i.runId = run.id → i.workspaceId = workspaceId := by
  intro i mem under
  obtain ⟨stored, here⟩ := List.mem_filter.mp listed
  obtain ⟨parent, of⟩ := h.traced.calls i mem
  have found : s.runtime.runs.get? i.runId = some run :=
    under ▸ Registry.get?_of_mem_values stored
  obtain rfl : parent = run := Option.some.inj (of.stored.symm.trans found)
  exact of.workspace.trans (of_decide_eq_true here)

theorem receipt {run : AgentRun} (listed : run ∈ runsIn s.runtime workspaceId) :
    ∀ r ∈ s.runtime.toolReceipts.values, r.invocation.runId = run.id →
      r.invocation.workspaceId = workspaceId := by
  intro r mem under
  have stored := h.traced.receipts.stored r mem
  exact h.call listed _ (Registry.mem_values_of_get? stored) under

theorem plan {parent : OrchestrationRun} (stored : parent ∈ s.runs.values)
    (here : parent.workspaceId = workspaceId) :
    ∀ plan ∈ s.plans.values, plan.orchestrationRunId = parent.id →
      plan.workspaceId = workspaceId := by
  intro plan mem under
  obtain ⟨run, found, -, scope⟩ := h.ledger.owned plan mem
  have other : s.runs.get? plan.orchestrationRunId = some parent :=
    under ▸ Registry.get?_of_mem_values stored
  obtain rfl : run = parent := Option.some.inj (found.symm.trans other)
  exact scope.symm.trans here

theorem delegation {parent : OrchestrationRun} (stored : parent ∈ s.runs.values)
    (here : parent.workspaceId = workspaceId) :
    ∀ d ∈ s.delegations.values, d.orchestrationRunId = parent.id →
      d.workspaceId = workspaceId := by
  intro d mem under
  obtain ⟨run, found, scope⟩ := h.linkage.housed d mem
  have other : s.runs.get? d.orchestrationRunId = some parent :=
    under ▸ Registry.get?_of_mem_values stored
  obtain rfl : run = parent := Option.some.inj (found.symm.trans other)
  exact scope.symm.trans here

end Sited

section Members

variable (same : SameIn workspaceId s t) (first : Sited s) (second : Sited t)

include same first second

theorem sameMembers_callsOf {run : AgentRun} (here : run ∈ runsIn s.runtime workspaceId)
    (there : run ∈ runsIn t.runtime workspaceId) :
    SameMembers (callsOf s.runtime run.id) (callsOf t.runtime run.id) :=
  same.calls.filter_of_imp (first.call here) (second.call there)

theorem sameMembers_receiptsOf {run : AgentRun} (here : run ∈ runsIn s.runtime workspaceId)
    (there : run ∈ runsIn t.runtime workspaceId) :
    SameMembers (receiptsOf s.runtime run.id) (receiptsOf t.runtime run.id) :=
  same.receipts.filter_of_imp (first.receipt here) (second.receipt there)

theorem sameMembers_tasksForGoal {goalId : GoalId}
    (own : ∃ g ∈ s.runtime.domain.goals.get? goalId, g.workspaceId = workspaceId) :
    SameMembers (s.runtime.domain.tasksForGoal goalId) (t.runtime.domain.tasksForGoal goalId) :=
  same.tasks.filter_of_imp (first.task own)
    (second.task ((owned_iff same.goals goalId).mp own))

theorem sameMembers_attemptsForTask {taskId : TaskId}
    (own : ∃ task ∈ s.runtime.domain.tasks.get? taskId, task.workspaceId = workspaceId) :
    SameMembers (s.runtime.domain.attemptsForTask taskId)
      (t.runtime.domain.attemptsForTask taskId) := by
  intro a
  unfold DomainStore.attemptsForTask
  rw [List.mem_insertionSort, List.mem_insertionSort]
  exact same.attempts.filter_of_imp (first.attempt own)
    (second.attempt ((owned_iff same.tasks taskId).mp own)) a

end Members

/-! ## The identities of an orchestration run -/

/-- The orchestration runs that a service finds in a workspace. -/
def attachedIn (s : OrchestrationStore) (attached : Bool) (workspaceId : WorkspaceId) :
    List OrchestrationRun :=
  if attached = true then s.runs.values.filter (·.workspaceId = workspaceId) else []

theorem mem_attachedIn {attached : Bool} {run : OrchestrationRun}
    (mem : run ∈ attachedIn s attached workspaceId) :
    run ∈ s.runs.values ∧ run.workspaceId = workspaceId := by
  unfold attachedIn at mem
  by_cases has : attached = true
  · rw [if_pos has] at mem
    simpa using mem
  · rw [if_neg has] at mem
    cases mem

theorem sameMembers_attachedIn (same : SameIn workspaceId s t) (attached : Bool) :
    SameMembers (attachedIn s attached workspaceId) (attachedIn t attached workspaceId) := by
  unfold attachedIn
  by_cases has : attached = true
  · rw [if_pos has, if_pos has]
    exact same.orchestrations.filter
  · rw [if_neg has, if_neg has]
    exact .refl _

theorem alike_attachedRuns (same : SameIn workspaceId s t) (attached : Bool) :
    Alike Refusal s t (attachedRuns attached workspaceId) (attachedRuns attached workspaceId)
      fun a b => a = attachedIn s attached workspaceId ∧
        b = attachedIn t attached workspaceId := by
  unfold attachedRuns attachedIn
  by_cases has : attached = true
  · rw [if_pos has, if_pos has, if_pos has]
    refine (alike_inRuntime (alike_inDomain (alike_getWorkspace same))).bind fun _ _ _ =>
      Alike.getStore.bind ?_
    rintro _ _ ⟨rfl, rfl⟩
    exact .pure ⟨rfl, rfl⟩
  · rw [if_neg has, if_neg has, if_neg has]
    exact .pure ⟨rfl, rfl⟩

/-- The identities of an orchestration run with its plans and delegations. -/
def parentNames (s : OrchestrationStore) (parent : OrchestrationRun) : List PyStr :=
  parent.id.value :: (s.plansOf parent.id).map (·.id.value) ++
    (s.delegationsOf parent.id).map (·.id.value)

theorem looks_parentIdentities {parent : OrchestrationRun} (stored : parent ∈ s.runs.values)
    (here : parent.workspaceId = workspaceId) :
    Looks s (AuditQueryService.parentIdentities workspaceId parent)
      fun names => names.map id = parentNames s parent := by
  have found : Looks s (getOrchestrationRun workspaceId parent.id) fun _ => True := by
    refine Looks.getStore.bind ?_
    rintro _ rfl
    refine (Looks.need (Registry.get?_of_mem_values stored)).bind ?_
    rintro _ rfl
    refine (Looks.raiseIf ?_).bind fun _ _ => .pure trivial
    exact not_not_intro here.symm
  have plans : Looks s (getPlans workspaceId parent.id) (· = s.plansOf parent.id) := by
    refine found.bind fun _ _ => Looks.getStore.bind ?_
    rintro _ rfl
    exact .pure rfl
  have delegations : Looks s (getDelegations workspaceId parent.id)
      (· = s.delegationsOf parent.id) := by
    refine found.bind fun _ _ => Looks.getStore.bind ?_
    rintro _ rfl
    exact .pure rfl
  refine plans.bind ?_
  rintro _ rfl
  refine delegations.bind ?_
  rintro _ rfl
  exact .pure (List.map_id _)

theorem sameMembers_parentNames (same : SameIn workspaceId s t) (first : Sited s)
    (second : Sited t) {parent : OrchestrationRun} (here : parent ∈ s.runs.values)
    (there : parent ∈ t.runs.values) (own : parent.workspaceId = workspaceId) :
    SameMembers (parentNames s parent) (parentNames t parent) := by
  have plans : SameMembers (s.plansOf parent.id) (t.plansOf parent.id) := by
    intro plan
    unfold OrchestrationTables.plansOf
    rw [List.mem_insertionSort, List.mem_insertionSort]
    exact same.plans.filter_of_imp (first.plan here own) (second.plan there own) plan
  have delegations : SameMembers (s.delegationsOf parent.id) (t.delegationsOf parent.id) :=
    same.delegations.filter_of_imp (first.delegation here own) (second.delegation there own)
  exact ((SameMembers.refl [parent.id.value]).append (plans.map _)).append (delegations.map _)

/-! ## The timelines -/

section Timelines

variable {service service' : AuditQueryService} (same : SameIn workspaceId s t)
  (first : Sited s) (second : Sited t) (serving : SameService workspaceId service service')

include same serving

/-- The two answers are one timeline of the first state. -/
def OneTimeline (s : OrchestrationStore) (service : AuditQueryService)
    (workspaceId : WorkspaceId) (a b : List TimelineEntry) : Prop :=
  a = b ∧ TimelineOf s service workspaceId a

include first second in
theorem alike_timelineForGoal (goalId : GoalId) :
    Alike Refusal s t (service.timelineForGoal workspaceId goalId)
      (service'.timelineForGoal workspaceId goalId) (OneTimeline s service workspaceId) := by
  unfold AuditQueryService.timelineForGoal
  refine .atomic (alike_owned (answers_getEntity s goalId) (answers_getEntity t goalId)
    (owned_iff same.goals goalId) fun own => ?_)
  refine (alike_inRuntime (alike_inDomain .getStore)).bind ?_
  rintro _ _ ⟨rfl, rfl⟩
  refine (alike_inRuntime (alike_listed same fun store => runsIn store workspaceId)).bind ?_
  rintro _ _ ⟨rfl, rfl⟩
  rw [← serving.attached]
  refine (alike_attachedRuns same service.attached).bind ?_
  rintro _ _ ⟨rfl, rfl⟩
  -- The parents are of the workspace, so that each visit returns.
  have parents : SameMembers
      ((attachedIn s service.attached workspaceId).filter (·.goalId = goalId))
      ((attachedIn t service.attached workspaceId).filter (·.goalId = goalId)) :=
    (sameMembers_attachedIn same _).filter _
  have visit {u : OrchestrationStore} : Looks u
      (gather ((attachedIn u service.attached workspaceId).filter (·.goalId = goalId))
        (AuditQueryService.parentIdentities workspaceId)) fun names => names.map id =
      ((attachedIn u service.attached workspaceId).filter (·.goalId = goalId)).flatMap
        (parentNames u) := by
    refine .gather fun parent mem => ?_
    obtain ⟨stored, here⟩ := mem_attachedIn (List.mem_filter.mp mem).1
    exact looks_parentIdentities stored here
  have named : SameMembers
      (((attachedIn s service.attached workspaceId).filter (·.goalId = goalId)).flatMap
        (parentNames s))
      (((attachedIn t service.attached workspaceId).filter (·.goalId = goalId)).flatMap
        (parentNames t)) := by
    refine parents.flatMap fun parent mem => ?_
    obtain ⟨here, own⟩ := mem_attachedIn (List.mem_filter.mp mem).1
    obtain ⟨there, -⟩ := mem_attachedIn (List.mem_filter.mp ((parents parent).mp mem)).1
    exact sameMembers_parentNames same first second here there own
  refine (Alike.of_looks visit visit (R := SameMembers) ?_).bind fun a b orchestration => ?_
  · intro a b one other
    rw [List.map_id] at one other
    rw [one, other]
    exact named
  have tasks := sameMembers_tasksForGoal same first second own
  have attempts : SameMembers
      ((s.runtime.domain.tasksForGoal goalId).flatMap fun task =>
        s.runtime.domain.attemptsForTask task.id)
      ((t.runtime.domain.tasksForGoal goalId).flatMap fun task =>
        t.runtime.domain.attemptsForTask task.id) := by
    refine tasks.flatMap fun task mem => ?_
    obtain ⟨stored, under⟩ := List.mem_filter.mp mem
    have here := first.task own task stored (of_decide_eq_true under)
    exact sameMembers_attemptsForTask same first second
      ⟨task, Registry.get?_of_mem_values stored, here⟩
  have runs : SameMembers ((runsIn s.runtime workspaceId).filter (·.goalId = goalId))
      ((runsIn t.runtime workspaceId).filter (·.goalId = goalId)) := same.runs.filter.filter _
  exact alike_timeline same serving
    (((((SameMembers.refl [goalId.value]).append (tasks.map _)).append
      (attempts.flatMap fun _ _ => .refl _)).append (runs.flatMap fun _ _ => .refl _)).append
        orchestration)

include first second in
theorem alike_timelineForTask (taskId : TaskId) :
    Alike Refusal s t (service.timelineForTask workspaceId taskId)
      (service'.timelineForTask workspaceId taskId) (OneTimeline s service workspaceId) := by
  unfold AuditQueryService.timelineForTask
  refine .atomic (alike_owned (answers_getEntity s taskId) (answers_getEntity t taskId)
    (owned_iff same.tasks taskId) fun own => ?_)
  refine (alike_inRuntime (alike_listed same fun store => runsIn store workspaceId)).bind ?_
  rintro _ _ ⟨rfl, rfl⟩
  refine (alike_inRuntime (alike_inDomain .getStore)).bind ?_
  rintro _ _ ⟨rfl, rfl⟩
  have runs : SameMembers ((runsIn s.runtime workspaceId).filter (·.taskId = taskId))
      ((runsIn t.runtime workspaceId).filter (·.taskId = taskId)) := same.runs.filter.filter _
  have attempts := sameMembers_attemptsForTask same first second own
  exact alike_timeline same serving
    (((SameMembers.refl [taskId.value]).append (runs.map _)).append (attempts.map _))

theorem alike_timelineForAgentRun (runId : AgentRunId) :
    Alike Refusal s t (service.timelineForAgentRun workspaceId runId)
      (service'.timelineForAgentRun workspaceId runId) (OneTimeline s service workspaceId) := by
  unfold AuditQueryService.timelineForAgentRun
  have found : Alike Refusal s.runtime t.runtime (getRun workspaceId runId)
      (getRun workspaceId runId) Eq := alike_scoped RuntimeStore.runs _ same.runs runId _
  refine .atomic ((alike_inRuntime found).bind fun _ _ _ => ?_)
  exact alike_timeline same serving (.refl _)

theorem alike_timelineForActionIntent (intentId : ActionIntentId) :
    Alike Refusal s t (service.timelineForActionIntent workspaceId intentId)
      (service'.timelineForActionIntent workspaceId intentId)
      (OneTimeline s service workspaceId) := by
  unfold AuditQueryService.timelineForActionIntent
  have found : Alike Refusal s.runtime t.runtime (governedAction workspaceId intentId)
      (governedAction workspaceId intentId) Eq :=
    alike_scoped RuntimeStore.governed _ same.governed intentId _
  refine .atomic ((alike_inRuntime found).bind ?_)
  rintro record _ rfl
  exact alike_timeline same serving (.refl _)

end Timelines

/-! ## Approvals -/

/-- Records of distinct keys in one list have distinct texts. -/
theorem nodup_value {α : Type} {kind : IdKind} {key : α → OpaqueId kind} {xs : List α}
    (nodup : (xs.map key).Nodup) : (xs.map fun x => (key x).value).Nodup := by
  rw [List.Nodup, List.pairwise_map] at nodup ⊢
  refine nodup.imp ?_
  intro a b other same
  exact other (OpaqueId.ext_value same)

theorem nodup_recordsIn (s : RuntimeStore) (workspaceId : WorkspaceId) :
    ((recordsIn s workspaceId).map fun g => g.intent.id.value).Nodup := by
  have keys : (s.governed.values.map fun g => g.intent.id).Nodup := s.governed.nodup
  exact nodup_value ((List.filter_sublist.map _).nodup keys)

theorem alike_approvalsForTask (same : SameIn workspaceId s t) (taskId : TaskId) :
    Alike Refusal s t (approvalsForTask workspaceId taskId) (approvalsForTask workspaceId taskId)
      Eq := by
  unfold approvalsForTask
  refine .atomic (alike_owned (answers_getEntity s taskId) (answers_getEntity t taskId)
    (owned_iff same.tasks taskId) fun _ => ?_)
  refine (alike_inRuntime (alike_listed same fun store => recordsIn store workspaceId)).bind ?_
  rintro _ _ ⟨rfl, rfl⟩
  apply Alike.pure
  have records : SameMembers (recordsIn s.runtime workspaceId) (recordsIn t.runtime workspaceId) :=
    same.governed.filter
  rw [records.sortedBy_eq (nodup_recordsIn _ _) (nodup_recordsIn _ _)]

/-! ## Tool calls -/

/-- An invocation has one receipt. -/
def OneReceipt (receipts : List ToolReceipt) : Prop :=
  ∀ r ∈ receipts, ∀ r' ∈ receipts, r.invocation.id = r'.invocation.id → r = r'

theorem Sited.oneReceipt (h : Sited s) (runId : AgentRunId) :
    OneReceipt (receiptsOf s.runtime runId) := by
  intro r mem r' mem' same
  exact h.traced.receipts.single r (List.mem_filter.mp mem).1 r' (List.mem_filter.mp mem').1 same

/-- A search for the receipt of an invocation finds the same in lists with the same
members. -/
theorem find_receipt {receipts receipts' : List ToolReceipt} {p : ToolReceipt → Bool}
    (one : OneReceipt receipts) (same : SameMembers receipts receipts')
    (names : ∀ r r' : ToolReceipt, p r = true → p r' = true →
      r.invocation.id = r'.invocation.id) : receipts.find? p = receipts'.find? p := by
  cases found : receipts.find? p with
  | none =>
      symm
      rw [List.find?_eq_none] at found ⊢
      exact fun r mem => found r ((same r).mpr mem)
  | some r =>
      cases found' : receipts'.find? p with
      | none =>
          have mem := (same r).mp (List.mem_of_find?_eq_some found)
          exact absurd (List.find?_some found) (List.find?_eq_none.mp found' r mem)
      | some r' =>
          have mem := List.mem_of_find?_eq_some found
          have mem' := (same r').mpr (List.mem_of_find?_eq_some found')
          have id := names r r' (List.find?_some found) (List.find?_some found')
          rw [one r mem r' mem' id]

/-- What the query shows of a run. -/
def callViews (s : RuntimeStore) (executionId : ExecutionId) (run : AgentRun) :
    List InvocationView :=
  if run.executionId ≠ executionId then []
  else (callsOf s run.id).map fun call =>
    invocationView run call (receiptOf (receiptsOf s run.id) call)

theorem looks_runInvocations {s : RuntimeStore} {run : AgentRun} (executionId : ExecutionId)
    (mem : run ∈ runsIn s workspaceId) :
    Looks s (runInvocations workspaceId executionId run)
      fun views => views.map id = callViews s executionId run := by
  unfold runInvocations callViews
  by_cases other : run.executionId ≠ executionId
  · rw [if_pos other, if_pos other]
    exact .pure rfl
  · rw [if_neg other, if_neg other]
    refine (looks_toolReceipts mem).bind ?_
    rintro _ rfl
    refine (looks_toolInvocations mem).bind ?_
    rintro _ rfl
    exact .pure (List.map_id _)

theorem sameMembers_callViews (same : SameIn workspaceId s t) (first : Sited s) (second : Sited t)
    (executionId : ExecutionId) {run : AgentRun} (here : run ∈ runsIn s.runtime workspaceId)
    (there : run ∈ runsIn t.runtime workspaceId) :
    SameMembers (callViews s.runtime executionId run) (callViews t.runtime executionId run) := by
  have calls := sameMembers_callsOf same first second here there
  have receipts := sameMembers_receiptsOf same first second here there
  have answered (i : ToolInvocation) : receiptOf (receiptsOf s.runtime run.id) i =
      receiptOf (receiptsOf t.runtime run.id) i := by
    have backwards : SameMembers (receiptsOf s.runtime run.id).reverse
        (receiptsOf t.runtime run.id).reverse := by
      intro r
      rw [List.mem_reverse, List.mem_reverse]
      exact receipts r
    refine find_receipt ?_ backwards ?_
    · intro r mem r' mem'
      exact first.oneReceipt run.id r (List.mem_reverse.mp mem) r' (List.mem_reverse.mp mem')
    · intro r r' named named'
      exact (of_decide_eq_true named).trans (of_decide_eq_true named').symm
  unfold callViews
  by_cases other : run.executionId ≠ executionId
  · rw [if_pos other, if_pos other]
    exact .refl _
  · rw [if_neg other, if_neg other]
    simp only [answered]
    exact calls.map _

theorem nodup_runsIn (s : RuntimeStore) (workspaceId : WorkspaceId) :
    (runsIn s workspaceId).Pairwise fun run other => run.id ≠ other.id := by
  have keys : (s.runs.values.map fun run => run.id).Nodup := s.runs.nodup
  exact List.pairwise_map.mp ((List.filter_sublist.map _).nodup keys)

/-- An invocation is shown under its run, once. -/
theorem nodup_callViews (s : RuntimeStore) (workspaceId : WorkspaceId)
    (executionId : ExecutionId) :
    (((runsIn s workspaceId).flatMap (callViews s executionId)).map
      InvocationView.invocationId).Nodup := by
  have member {run : AgentRun} {view : InvocationView}
      (mem : view ∈ callViews s executionId run) :
      ∃ i ∈ callsOf s run.id, view.invocationId = i.id.value := by
    unfold callViews at mem
    by_cases other : run.executionId ≠ executionId
    · rw [if_pos other] at mem
      cases mem
    · rw [if_neg other] at mem
      obtain ⟨i, listed, rfl⟩ := List.mem_map.mp mem
      exact ⟨i, listed, rfl⟩
  have keys (runId : AgentRunId) : ((callsOf s runId).map fun i => i.id.value).Nodup := by
    have ids : (s.toolInvocations.values.map fun i => i.id).Nodup := s.toolInvocations.nodup
    exact nodup_value ((List.filter_sublist.map _).nodup ids)
  refine nodup_flatMap_keys (fun k run => ∃ i ∈ callsOf s run.id, k = i.id.value)
    ?_ (fun run _ view mem => member mem) ?_
  · intro run _
    unfold callViews
    by_cases other : run.executionId ≠ executionId
    · rw [if_pos other]
      exact List.nodup_nil
    · rw [if_neg other, List.map_map]
      exact keys run.id
  · refine (nodup_runsIn s workspaceId).imp ?_
    rintro run run' other _ ⟨i, mem, rfl⟩ ⟨i', mem', value⟩
    obtain ⟨stored, under⟩ := List.mem_filter.mp mem
    obtain ⟨stored', under'⟩ := List.mem_filter.mp mem'
    have one : i = i' := Registry.eq_of_key stored stored' (OpaqueId.ext_value value)
    subst one
    exact other ((of_decide_eq_true under).symm.trans (of_decide_eq_true under'))

theorem alike_toolInvocationsForExecution (same : SameIn workspaceId s t) (first : Sited s)
    (second : Sited t) (executionId : ExecutionId) :
    Alike Refusal s t (toolInvocationsForExecution workspaceId executionId)
      (toolInvocationsForExecution workspaceId executionId) Eq := by
  unfold toolInvocationsForExecution
  refine .atomic (alike_owned (answers_getEntity s executionId) (answers_getEntity t executionId)
    (owned_iff same.executions executionId) fun _ => ?_)
  refine (alike_inRuntime (alike_listed same fun store => runsIn store workspaceId)).bind ?_
  rintro _ _ ⟨rfl, rfl⟩
  have runs : SameMembers (runsIn s.runtime workspaceId) (runsIn t.runtime workspaceId) :=
    same.runs.filter
  have views := runs.flatMap fun run mem =>
    sameMembers_callViews same first second executionId mem ((runs run).mp mem)
  have visit (u : RuntimeStore) : Looks u
      (gather (runsIn u workspaceId) (runInvocations workspaceId executionId)) fun views =>
      views.map id = (runsIn u workspaceId).flatMap (callViews u executionId) :=
    .gather fun run mem => looks_runInvocations executionId mem
  refine (alike_inRuntime (.of_looks (visit s.runtime) (visit t.runtime)
    fun _ _ => And.intro)).bind ?_
  rintro a b ⟨one, other⟩
  rw [List.map_id] at one other
  subst one other
  apply Alike.pure
  exact views.sortedBy_eq (nodup_callViews _ _ _) (nodup_callViews _ _ _)

/-! ## Traces -/

/-- The intents under which a run is traced. -/
def tracedIntents (records : List GovernedAction) (runId : AgentRunId) :
    List (Option GovernedAction) :=
  let intents := records.filter (·.intent.runId = runId)
  if intents = [] then [none] else intents.map some

/-- What the trace shows of a run. -/
def linksOf (s : RuntimeStore) (workspaceId : WorkspaceId) (goalId : GoalId) (run : AgentRun) :
    List TraceLink :=
  if run.goalId ≠ goalId then []
  else (tracedIntents (recordsIn s workspaceId) run.id).map fun record =>
    traceLink goalId run record (claimReceipt (receiptsOf s run.id) record)

theorem looks_runLinks {s : RuntimeStore} {run : AgentRun} (goalId : GoalId)
    (mem : run ∈ runsIn s workspaceId) :
    Looks s (runLinks workspaceId goalId (recordsIn s workspaceId) run)
      fun links => links.map id = linksOf s workspaceId goalId run := by
  unfold runLinks linksOf
  by_cases other : run.goalId ≠ goalId
  · rw [if_pos other, if_pos other]
    exact .pure rfl
  · rw [if_neg other, if_neg other, List.map_eq_flatMap]
    refine .gather fun record _ => ?_
    refine (looks_toolReceipts mem).bind ?_
    rintro _ rfl
    exact .pure rfl

theorem sameMembers_tracedIntents {records records' : List GovernedAction}
    (same : SameMembers records records') (runId : AgentRunId) :
    SameMembers (tracedIntents records runId) (tracedIntents records' runId) := by
  have intents := same.filter fun g => decide (g.intent.runId = runId)
  unfold tracedIntents
  dsimp only
  by_cases none : records.filter (·.intent.runId = runId) = []
  · rw [if_pos none, if_pos (intents.nil_iff.mp none)]
    exact .refl _
  · rw [if_neg none, if_neg fun empty => none (intents.nil_iff.mpr empty)]
    exact intents.map _

theorem sameMembers_linksOf (same : SameIn workspaceId s t) (first : Sited s) (second : Sited t)
    (goalId : GoalId) {run : AgentRun} (here : run ∈ runsIn s.runtime workspaceId)
    (there : run ∈ runsIn t.runtime workspaceId) :
    SameMembers (linksOf s.runtime workspaceId goalId run)
      (linksOf t.runtime workspaceId goalId run) := by
  have receipts := sameMembers_receiptsOf same first second here there
  have claimed (record : Option GovernedAction) :
      claimReceipt (receiptsOf s.runtime run.id) record =
        claimReceipt (receiptsOf t.runtime run.id) record := by
    refine find_receipt (first.oneReceipt run.id) receipts ?_
    intro r r' named named'
    exact Option.some.inj ((of_decide_eq_true named).symm.trans (of_decide_eq_true named'))
  unfold linksOf
  by_cases other : run.goalId ≠ goalId
  · rw [if_pos other, if_pos other]
    exact .refl _
  · rw [if_neg other, if_neg other]
    simp only [claimed]
    exact (sameMembers_tracedIntents same.governed.filter run.id).map _

/-- An intent is shown under its run, once. -/
theorem nodup_linksOf (s : RuntimeStore) (workspaceId : WorkspaceId) (goalId : GoalId) :
    (((runsIn s workspaceId).flatMap (linksOf s workspaceId goalId)).map linkKey).Nodup := by
  refine nodup_flatMap_keys (fun k run => (ofLex k).1 = run.id.value) ?_ ?_ ?_
  · intro run _
    unfold linksOf
    by_cases other : run.goalId ≠ goalId
    · rw [if_pos other]
      exact List.nodup_nil
    · rw [if_neg other, List.map_map]
      unfold tracedIntents
      dsimp only
      by_cases none : (recordsIn s workspaceId).filter (·.intent.runId = run.id) = []
      · rw [if_pos none]
        exact List.nodup_singleton _
      · rw [if_neg none, List.map_map]
        have texts := (List.filter_sublist (p := fun g => decide (g.intent.runId = run.id))
          |>.map _).nodup (nodup_recordsIn s workspaceId)
        rw [List.Nodup, List.pairwise_map] at texts ⊢
        refine texts.imp ?_
        intro g g' other same
        exact other (Prod.mk.inj (toLex_inj.mp same)).2
  · intro run _ link mem
    unfold linksOf at mem
    by_cases other : run.goalId ≠ goalId
    · rw [if_pos other] at mem
      cases mem
    · rw [if_neg other] at mem
      obtain ⟨record, -, rfl⟩ := List.mem_map.mp mem
      rfl
  · refine (nodup_runsIn s workspaceId).imp ?_
    intro run run' other k here there
    exact other (OpaqueId.ext_value (here.symm.trans there))

theorem alike_traceGoal (same : SameIn workspaceId s t) (first : Sited s) (second : Sited t)
    (goalId : GoalId) :
    Alike Refusal s t (traceGoal workspaceId goalId) (traceGoal workspaceId goalId) Eq := by
  unfold traceGoal
  refine .atomic (alike_owned (answers_getEntity s goalId) (answers_getEntity t goalId)
    (owned_iff same.goals goalId) fun _ => ?_)
  refine (alike_inRuntime (alike_listed same fun store => recordsIn store workspaceId)).bind ?_
  rintro _ _ ⟨rfl, rfl⟩
  refine (alike_inRuntime (alike_listed same fun store => runsIn store workspaceId)).bind ?_
  rintro _ _ ⟨rfl, rfl⟩
  have runs : SameMembers (runsIn s.runtime workspaceId) (runsIn t.runtime workspaceId) :=
    same.runs.filter
  have links := runs.flatMap fun run mem =>
    sameMembers_linksOf same first second goalId mem ((runs run).mp mem)
  have visit (u : RuntimeStore) : Looks u
      (gather (runsIn u workspaceId) (runLinks workspaceId goalId (recordsIn u workspaceId)))
      fun links =>
        links.map id = (runsIn u workspaceId).flatMap (linksOf u workspaceId goalId) :=
    .gather fun run mem => looks_runLinks goalId mem
  refine (alike_inRuntime (.of_looks (visit s.runtime) (visit t.runtime)
    fun _ _ => And.intro)).bind ?_
  rintro a b ⟨one, other⟩
  rw [List.map_id] at one other
  subst one other
  apply Alike.pure
  exact links.sortedBy_eq (nodup_linksOf _ _ _) (nodup_linksOf _ _ _)

/-! ## Every query -/

/-- An answer that the two states give; a timeline has to be one of the first state. -/
def OneAnswer (s : OrchestrationStore) (service : AuditQueryService) (workspaceId : WorkspaceId)
    (a b : AuditAnswer) : Prop :=
  a = b ∧ ∀ entries, a = .timeline entries → TimelineOf s service workspaceId entries

theorem alike_answer {service service' : AuditQueryService} (same : SameIn workspaceId s t)
    (first : Sited s) (second : Sited t) (serving : SameService workspaceId service service')
    (query : AuditQuery) :
    Alike Refusal s t (service.answer workspaceId query) (service'.answer workspaceId query)
      (OneAnswer s service workspaceId) := by
  have shown (a b : List TimelineEntry) (one : OneTimeline s service workspaceId a b) :
      OneAnswer s service workspaceId (.timeline a) (.timeline b) := by
    refine ⟨congrArg _ one.1, ?_⟩
    intro entries is
    cases is
    exact one.2
  cases query with
  | timelineForGoal goalId =>
      exact (alike_timelineForGoal same first second serving goalId).bind fun a b one =>
        .pure (shown a b one)
  | timelineForTask taskId =>
      exact (alike_timelineForTask same first second serving taskId).bind fun a b one =>
        .pure (shown a b one)
  | timelineForAgentRun runId =>
      exact (alike_timelineForAgentRun same serving runId).bind fun a b one =>
        .pure (shown a b one)
  | timelineForActionIntent intentId =>
      exact (alike_timelineForActionIntent same serving intentId).bind fun a b one =>
        .pure (shown a b one)
  | approvalsForTask taskId =>
      refine (alike_approvalsForTask same taskId).bind ?_
      rintro views _ rfl
      exact .pure ⟨rfl, nofun⟩
  | toolInvocationsForExecution executionId =>
      refine (alike_toolInvocationsForExecution same first second executionId).bind ?_
      rintro views _ rfl
      exact .pure ⟨rfl, nofun⟩
  | traceGoal goalId =>
      refine (alike_traceGoal same first second goalId).bind ?_
      rintro links _ rfl
      exact .pure ⟨rfl, nofun⟩

end Queries

/-- In every state that the services lead to, a timeline of a workspace has events of the
workspace only, each once and in order; and any other such state with the same records and
events of the workspace answers every query for it alike: with the same views, or both
raise an exception of the domain. -/
theorem audit_isolation (platform : Platform) (labels : List Label) (workspaceId : WorkspaceId)
    (service : AuditQueryService) (query : AuditQuery) :
    (∀ entries, (Company.after platform labels).reply (service.answer workspaceId query) =
        .ok (.timeline entries) →
      TimelineOf (Company.after platform labels).store service workspaceId entries) ∧
    ∀ (platform' : Platform) (labels' : List Label) (service' : AuditQueryService),
      SameIn workspaceId (Company.after platform labels).store
        (Company.after platform' labels').store →
      SameService workspaceId service service' →
      (∃ answer,
        (Company.after platform labels).reply (service.answer workspaceId query) = .ok answer ∧
        (Company.after platform' labels').reply (service'.answer workspaceId query) =
          .ok answer) ∨
      ((∃ e, (Company.after platform labels).reply (service.answer workspaceId query) =
          .error (.domain e)) ∧
        ∃ e, (Company.after platform' labels').reply (service'.answer workspaceId query) =
          .error (.domain e)) := by
  have first := sited_after platform labels
  constructor
  · intro entries answered
    have alike := alike_answer (.refl workspaceId _) first first (.refl workspaceId service) query
    rcases alike.outcomes (w := (Company.after platform labels).world)
        (v := (Company.after platform labels).world) rfl rfl with
      ⟨a, b, w', v', one, -, -, -, -, fits⟩ | ⟨e, f, w', v', one, -⟩
    · have returned : (Company.after platform labels).reply (service.answer workspaceId query) =
          .ok a := congrArg World.answer one
      exact fits entries (Except.ok.inj (returned.symm.trans answered))
    · have raised : (Company.after platform labels).reply (service.answer workspaceId query) =
          .error e := congrArg World.answer one
      cases raised.symm.trans answered
  · intro platform' labels' service' same serving
    have alike := alike_answer same first (sited_after platform' labels') serving query
    rcases alike.outcomes (w := (Company.after platform labels).world)
        (v := (Company.after platform' labels').world) rfl rfl with
      ⟨a, _, w', v', one, other, -, -, rfl, -⟩ |
      ⟨_, _, w', v', one, other, -, -, ⟨d, rfl⟩, ⟨d', rfl⟩⟩
    · exact .inl ⟨a, congrArg World.answer one, congrArg World.answer other⟩
    · exact .inr ⟨⟨d, congrArg World.answer one⟩, ⟨d', congrArg World.answer other⟩⟩

/-! ### A second company -/

/-- A company with a goal. -/
def foundedRun : List Label :=
  [.runtime (.command (.domain (.createWorkspace (py "acme")))),
   .runtime (.command (.domain (.createGoal
     ⟨sampleWorkspace, py "reach out", [py "sent"], []⟩)))]

/-- The same, with a second company beside it. -/
def sharedRun : List Label :=
  foundedRun ++ [.runtime (.command (.domain (.createWorkspace (py "umbra"))))]

/-- The service of the operator host, with nothing remembered and nothing said. -/
def hostService : AuditQueryService := ⟨[.knowledge, .beside [], .beside []], true⟩

theorem sameIn_shared : SameIn sampleWorkspace (Company.after numberedPlatform foundedRun).store
    (Company.after numberedPlatform sharedRun).store where
  workspace := by decide +kernel
  goals := .of_filter_eq (by decide +kernel)
  tasks := .of_filter_eq (by decide +kernel)
  attempts := .of_filter_eq (by decide +kernel)
  executions := .of_filter_eq (by decide +kernel)
  domainEvents := .of_filter_eq (by decide +kernel)
  runs := .of_filter_eq (by decide +kernel)
  governed := .of_filter_eq (by decide +kernel)
  calls := .of_filter_eq (by decide +kernel)
  receipts := .of_filter_eq (by decide +kernel)
  runtimeEvents := .of_filter_eq (by decide +kernel)
  knowledgeEvents := .of_filter_eq (by decide +kernel)
  graph := by decide +kernel
  organizationEvents := .of_filter_eq (by decide +kernel)
  orchestrations := .of_filter_eq (by decide +kernel)
  plans := .of_filter_eq (by decide +kernel)
  delegations := .of_filter_eq (by decide +kernel)
  orchestrationEvents := .of_filter_eq (by decide +kernel)

/-- The second company is in the store, and the timeline of the goal is the same. -/
theorem timeline_beside :
    (Company.after numberedPlatform sharedRun).store.runtime.domain.workspaces.values.length = 2 ∧
    ∃ answer, answer ≠ .timeline [] ∧
      (Company.after numberedPlatform foundedRun).reply
        (hostService.answer sampleWorkspace (.timelineForGoal sampleGoal)) = .ok answer ∧
      (Company.after numberedPlatform sharedRun).reply
        (hostService.answer sampleWorkspace (.timelineForGoal sampleGoal)) = .ok answer := by
  have two :
      (Company.after numberedPlatform sharedRun).store.runtime.domain.workspaces.values.length =
        2 := by
    decide +kernel
  have long : ((Company.after numberedPlatform foundedRun).reply
      (hostService.answer sampleWorkspace (.timelineForGoal sampleGoal))).toOption.any
        (· ≠ .timeline []) = true := by
    decide +kernel
  have isolated := (audit_isolation numberedPlatform foundedRun sampleWorkspace hostService
    (.timelineForGoal sampleGoal)).2 numberedPlatform sharedRun hostService sameIn_shared
    (.refl _ _)
  rcases isolated with ⟨answer, alone, shared⟩ | ⟨⟨e, raised⟩, -⟩
  · rw [alone] at long
    exact ⟨two, answer, of_decide_eq_true long, alone, shared⟩
  · rw [raised] at long
    cases long

end AgentCompanyOS.Orchestration
