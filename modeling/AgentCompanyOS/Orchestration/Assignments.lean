import AgentCompanyOS.Orchestration.Width

/-!
# The delegations of a task

`delegate` adds a delegation of a task to the earlier ones: a retry keeps the agent of the
last one, a redelegation goes to an agent that has not had the task, and both find that the
last agent run has failed. The delegations of a task are therefore a succession, in every run
of the system and whichever modes the callers ask for.
-/

set_option autoImplicit false

namespace AgentCompanyOS.Orchestration

open Foundation Foundation.Txn Domain AgentCompanyOS.Runtime

variable {env : Env} {host : OrchestrationHost} {w w' : World OrchestrationStore}

/-! ## The selected agent is a candidate -/

section Candidates

variable {run : OrchestrationRun} {requirements : AgentRequirements}

theorem passing_subset {α : Type} {check : α → OrchestrationTxn Unit} {items kept : List α}
    (h : passing check items w = .ok kept w') : ∀ a ∈ kept, a ∈ items := by
  induction items generalizing kept w w' with
  | nil =>
      obtain ⟨rfl, -⟩ := pure_eq_ok.mp h
      intro a mem
      cases mem
  | cons item rest ih =>
      obtain ⟨passed, v, -, h⟩ := bind_eq_ok.mp h
      obtain ⟨others, u, going, h⟩ := bind_eq_ok.mp h
      obtain ⟨rfl, -⟩ := pure_eq_ok.mp h
      have later : ∀ a ∈ others, a ∈ item :: rest := fun a mem =>
        List.mem_cons_of_mem _ (ih going a mem)
      intro a mem
      split at mem
      · rcases List.mem_cons.mp mem with rfl | old
        · exact List.mem_cons_self
        · exact later a old
      · exact later a mem

theorem routedFromDepartment_subset (env : Env) (host : OrchestrationHost) (run : OrchestrationRun)
    (eligible : List AgentDefinitionVersion) :
    Yields (routedFromDepartment env host run eligible) fun kept => ∀ a ∈ kept, a ∈ eligible := by
  unfold routedFromDepartment
  split
  · exact fun _ _ _ h => passing_subset h
  · intro w kept w' h
    obtain ⟨rfl, -⟩ := pure_eq_ok.mp h
    exact fun _ mem => mem

theorem routedFromSources_subset {sources eligible kept : List AgentDefinitionVersion}
    {kind : RouteKind} (h : routedFromSources env host run sources kind eligible w = .ok kept w') :
    ∀ a ∈ kept, a ∈ eligible := by
  unfold routedFromSources at h
  split at h
  · exact passing_subset h
  · obtain ⟨rfl, -⟩ := pure_eq_ok.mp h
    exact fun _ mem => mem

theorem rankCandidates_subset {workspaceId : WorkspaceId}
    {excluded items : List AgentDefinitionVersion} {v v' : World RuntimeStore}
    {ranked : List (Nat × AgentDefinitionVersion)}
    (h : rankCandidates workspaceId requirements excluded items v = .ok ranked v') :
    ∀ entry ∈ ranked, entry.2 ∈ items := by
  induction items generalizing ranked v v' with
  | nil =>
      obtain ⟨rfl, -⟩ := pure_eq_ok.mp h
      intro entry mem
      cases mem
  | cons item rest ih =>
      unfold rankCandidates at h
      split at h
      · intro entry mem
        exact List.mem_cons_of_mem _ (ih h entry mem)
      · obtain ⟨canonical, -, h⟩ := (reads_getDefinition _ _ _).then h
        have h := getStore_then h
        obtain ⟨others, going, h⟩ := (reads_rankCandidates _ _ _ _).then h
        obtain ⟨rfl, -⟩ := pure_eq_ok.mp h
        intro entry mem
        split at mem
        · rcases List.mem_cons.mp mem with rfl | later
          · exact List.mem_cons_self
          · exact List.mem_cons_of_mem _ (ih going entry later)
        · exact List.mem_cons_of_mem _ (ih going entry mem)

theorem select_mem (workspaceId : WorkspaceId) (requirements : AgentRequirements)
    (items excluded : List AgentDefinitionVersion) :
    Yields (inRuntime (select workspaceId requirements items excluded)) (· ∈ items) := by
  intro w selected w' h
  obtain ⟨v, inner, -⟩ := zoom_eq_ok.mp h
  obtain ⟨ranked, ranking, inner⟩ := (reads_rankCandidates _ _ _ _).then inner
  obtain ⟨best, first, inner⟩ := need_then inner
  obtain ⟨rfl, -⟩ := pure_eq_ok.mp inner
  exact rankCandidates_subset ranking best
    ((List.mem_insertionSort _).mp (List.mem_of_head? first))

theorem selectPreferred_mem (env : Env) (host : OrchestrationHost) (run : OrchestrationRun)
    (requirements : AgentRequirements) (eligible excluded : List AgentDefinitionVersion) :
    Yields (selectPreferred env host run requirements eligible excluded) (· ∈ eligible) := by
  unfold selectPreferred
  split
  · refine (Yields.true _).bind fun preferred _ => ?_
    intro w selected w' h
    rcases catching_eq_ok.mp h with returned | ⟨e, u, -, handled⟩
    · exact (List.mem_filter.mp (select_mem _ _ _ _ _ _ _ returned)).1
    · split at handled
      · exact select_mem _ _ _ _ _ _ _ handled
      · cases handled
  · exact select_mem _ _ _ _

/-- Of the agents a caller names, one is selected. -/
theorem selectAgent_named {named excluded sources : List AgentDefinitionVersion}
    {kind : RouteKind} {selected : AgentDefinitionVersion}
    (h : selectAgent env host run requirements (some named) excluded sources kind w =
      .ok selected w') : selected ∈ named := by
  obtain ⟨found, w₁, -, h⟩ := bind_eq_ok.mp h
  obtain ⟨routed, w₂, department, h⟩ := bind_eq_ok.mp h
  obtain ⟨eligible, w₃, fromSources, h⟩ := bind_eq_ok.mp h
  have preferred := selectPreferred_mem _ _ _ _ _ _ _ _ _ h
  have admitted := routedFromDepartment_subset env host run _ _ _ _ department _
    (routedFromSources_subset fromSources _ preferred)
  exact (List.mem_filter.mp admitted).1

end Candidates

/-! ## What a further delegation has found -/

/-- The agent that a delegation assigns its task to. -/
def Delegation.agent (d : Delegation) : AgentDefinitionId × Version :=
  (d.agentDefinitionId, d.agentDefinitionVersion)

/-- The last agent run of a delegation has failed. -/
def LastFailed (s : OrchestrationStore) (d : Delegation) : Prop :=
  ∃ a run, (s.attemptsOf d.id).getLast? = some a ∧
    s.runtime.runs.get? a.agentRunId = some run ∧ run.status = .failed

theorem requireFailed_eq_ok {workspaceId : WorkspaceId} {previous : Delegation} {rule : String}
    {u : Unit} (h : requireFailed workspaceId previous rule w = .ok u w') :
    LastFailed w.store previous := by
  have h := getAttempts_then h
  obtain ⟨last, final, h⟩ := need_then h
  obtain ⟨run, stored, -, h⟩ := childOf_then h
  obtain ⟨failed, -⟩ := raiseIf_eq_ok.mp h
  exact ⟨last, run, final, stored, not_not.mp failed⟩

theorem requireFailed_then {α : Type} {b : α} {workspaceId : WorkspaceId} {previous : Delegation}
    {rule : String} {f : Unit → OrchestrationTxn α}
    (h : (requireFailed workspaceId previous rule >>= f) w = .ok b w') :
    LastFailed w.store previous ∧ f () w = .ok b w' := by
  obtain ⟨_, passed, h⟩ := (reads_requireFailed _ _ _).then h
  exact ⟨requireFailed_eq_ok passed, h⟩

/-- A failed agent run stays the last one as long as no delegation is started. -/
theorem LastFailed.kept {s s' : OrchestrationStore} {d : Delegation} (h : LastFailed s d)
    (attempts : s'.attempts = s.attempts) (grown : Grown s.runtime s'.runtime) :
    LastFailed s' d := by
  obtain ⟨a, run, final, stored, failed⟩ := h
  refine ⟨a, run, ?_, grown.ended_run stored (by rw [failed]; rfl), failed⟩
  unfold OrchestrationTables.attemptsOf at final ⊢
  rw [attempts]
  exact final

/-- What a mode other than the initial one has found in the last delegation of a task. -/
structure Reassigns (s : OrchestrationStore) (previous : List Delegation) (mode : DelegationMode)
    (d : Delegation) : Prop where
  failed : ∃ last, previous.getLast? = some last ∧ LastFailed s last
  same : mode = .retry → ∀ last, previous.getLast? = some last → d.agent = last.agent

theorem modeCandidates_failed {workspaceId : WorkspaceId} {run : OrchestrationRun}
    {definitions : List AgentDefinitionVersion} {previous : List Delegation}
    {mode : DelegationMode} {found : List AgentDefinitionVersion × List AgentDefinitionVersion}
    (h : modeCandidates workspaceId run definitions previous mode w = .ok found w')
    (later : mode ≠ .initial) :
    (∃ last, previous.getLast? = some last ∧ LastFailed w.store last) ∧
      (mode = .retry → ∃ last definition, previous.getLast? = some last ∧
        found.1 = [definition] ∧ definition.key = last.agent) := by
  cases mode with
  | initial => exact (later rfl).elim
  | retry =>
      obtain ⟨last, final, h⟩ := need_then h
      obtain ⟨-, h⟩ := raiseIf_then h
      obtain ⟨failed, h⟩ := requireFailed_then h
      obtain ⟨definition, reading, h⟩ := (reads_delegate? _ _).then h
      obtain ⟨rfl, -⟩ := pure_eq_ok.mp h
      exact ⟨⟨last, final, failed⟩, fun _ => ⟨last, definition, final, rfl,
        delegate?_eq_ok reading⟩⟩
  | redelegate =>
      obtain ⟨last, final, h⟩ := need_then h
      obtain ⟨-, h⟩ := raiseIf_then h
      obtain ⟨failed, -⟩ := requireFailed_then h
      exact ⟨⟨last, final, failed⟩, nofun⟩
  | unknown text => cases h

/-- Without a target the delegate is one of the candidates. -/
theorem selectDelegate_retry {run : OrchestrationRun} {m : PlanMaterialization}
    {planned : PlannedTask} {previous : List Delegation} {target : Option AgentDefinitionVersion}
    {definitions excluded : List AgentDefinitionVersion} {selected : AgentDefinitionVersion}
    (h : selectDelegate env host run m planned previous .retry target definitions excluded w =
      .ok selected w') : selected ∈ definitions := by
  obtain ⟨allowed, h⟩ := raiseIf_then h
  obtain ⟨_, -, h⟩ := (reads_dependencySources _ _ _ _).then h
  obtain ⟨_, -, h⟩ := (reads_delegates _ _).then h
  have none' : target = none := by
    by_contra given
    exact allowed ⟨given, nofun⟩
  subst none'
  exact selectAgent_named h

theorem makeDelegation_reassigns {run : OrchestrationRun} {plan : PlanVersion}
    {m : PlanMaterialization} {planned : PlannedTask} {taskId : TaskId}
    {previous : List Delegation} {mode : DelegationMode} {target : Option AgentDefinitionVersion}
    {d : Delegation} (later : mode ≠ .initial)
    (h : makeDelegation env host run plan m planned taskId previous mode target w =
      .ok (some d) w') : Reassigns w.store previous mode d := by
  obtain ⟨found, w₁, -, s₁, h⟩ := Idle.then (idle_candidates env host run _) h
  obtain ⟨⟨definitions, excluded⟩, choosing, h⟩ := (reads_modeCandidates _ _ _ _ _).then h
  obtain ⟨⟨last, final, failed⟩, same⟩ := modeCandidates_failed choosing later
  rw [s₁] at failed
  obtain ⟨selected, w₂, selection, h⟩ := bind_eq_ok.mp h
  cases selected with
  | none =>
      obtain ⟨_, w₃, -, h⟩ := bind_eq_ok.mp h
      obtain ⟨_, w₄, -, h⟩ := bind_eq_ok.mp h
      cases (pure_eq_ok.mp h).1
  | some selected =>
      -- The agent of the new delegation is the selected one.
      have agent : d.agent = selected.key := by
        obtain ⟨_, w₃, -, h⟩ := bind_eq_ok.mp h
        obtain ⟨_, w₄, -, h⟩ := bind_eq_ok.mp h
        obtain ⟨_, w₅, -, h⟩ := bind_eq_ok.mp h
        obtain ⟨_, w₆, -, h⟩ := bind_eq_ok.mp h
        rw [← Option.some.inj (pure_eq_ok.mp h).1]
        rfl
      refine ⟨⟨last, final, failed⟩, fun retry other final' => ?_⟩
      obtain ⟨named, definition, final'', only, key⟩ := same retry
      obtain rfl : named = other := Option.some.inj (final''.symm.trans final')
      subst retry
      rcases catching_eq_ok.mp selection with returned | ⟨e, v, -, handled⟩
      · obtain ⟨picked, w₃, picking, returned⟩ := bind_eq_ok.mp returned
        obtain rfl := Option.some.inj (pure_eq_ok.mp returned).1
        have mem := selectDelegate_retry picking
        rw [show definitions = [definition] from only] at mem
        rw [agent, List.mem_singleton.mp mem, key]
      · split at handled
        · cases (pure_eq_ok.mp handled).1
        · cases handled

/-- A delegation that `delegate` answers in another mode than the initial one. -/
theorem delegate_reassigns {workspaceId : WorkspaceId} {runId : OrchestrationRunId}
    {taskId : TaskId} {expected : Version} {mode : DelegationMode}
    {target : Option AgentDefinitionVersion} {d : Delegation} (later : mode ≠ .initial)
    (h : delegate env host workspaceId runId taskId expected mode target w = .ok (some d) w') :
    Reassigns w.store (w.store.delegationsFor runId taskId) mode d := by
  obtain ⟨run, stored, scope, rest⟩ := getOrchestrationRun_then (atomic_eq_ok.mp h)
  obtain ⟨-, h⟩ := raiseIf_then rest
  obtain ⟨ready, -, h⟩ := (reads_readyTasks _ _).then h
  obtain ⟨-, h⟩ := raiseIf_then h
  obtain ⟨-, h⟩ := raiseIf_then h
  obtain ⟨plan, m, -, h⟩ := getCurrent_then h
  obtain ⟨planned, -, h⟩ := (reads_plannedFor _ _ _).then h
  have h := getDelegations_then h
  obtain ⟨active, -, h⟩ := (reads_countActive _ _).then h
  obtain ⟨-, h⟩ := raiseIf_then h
  rcases replay_or_make h with ⟨initial, -⟩ | ⟨-, made⟩
  · exact (later initial).elim
  · exact makeDelegation_reassigns later made

/-! ## Successions -/

/-- How a delegation follows the last of the earlier ones: as a retry by the same agent or as
a redelegation to an agent that none of them names. -/
inductive Delegation.Follows (d : Delegation) (earlier : List Delegation) (last : Delegation) :
    Prop
  | retry (retries : d.retryOrdinal = last.retryOrdinal + 1)
      (redelegations : d.redelegationOrdinal = last.redelegationOrdinal)
      (same : d.agent = last.agent) : Follows d earlier last
  | redelegation (retries : d.retryOrdinal = last.retryOrdinal)
      (redelegations : d.redelegationOrdinal = last.redelegationOrdinal + 1)
      (other : ∀ old ∈ earlier, d.agent ≠ old.agent) : Follows d earlier last

/-- Delegations in the order in which they were made: the first one is initial, each later one
follows the ones before it. -/
structure Succession (ds : List Delegation) : Prop where
  first : ∀ d, ds[0]? = some d → d.retryOrdinal = 0 ∧ d.redelegationOrdinal = 0
  next : ∀ (i : Nat) (last d : Delegation), ds[i]? = some last → ds[i + 1]? = some d →
    d.Follows (ds.take (i + 1)) last

namespace Succession

variable {ds : List Delegation}

theorem nil : Succession [] := ⟨fun d found => by simp at found, fun i last d found => by
  simp at found⟩

theorem single {d : Delegation} (retries : d.retryOrdinal = 0)
    (redelegations : d.redelegationOrdinal = 0) : Succession [d] := by
  constructor
  · intro other found
    obtain rfl := Option.some.inj found
    exact ⟨retries, redelegations⟩
  · intro i last other _ found
    simp at found

/-- A delegation that follows the last one is added. -/
theorem snoc (h : Succession ds) {last d : Delegation} (final : ds.getLast? = some last)
    (follows : d.Follows ds last) : Succession (ds ++ [d]) := by
  have positive : 0 < ds.length :=
    List.length_pos_iff.mpr (List.ne_nil_of_mem (List.mem_of_getLast? final))
  constructor
  · intro other found
    rw [List.getElem?_append_left positive] at found
    exact h.first other found
  · intro i before other here found
    rcases Nat.lt_trichotomy (i + 1) ds.length with below | same | above
    · rw [List.getElem?_append_left below] at found
      rw [List.getElem?_append_left (by omega)] at here
      rw [List.take_append_of_le_length (by omega)]
      exact h.next i before other here found
    · -- The added delegation and the last one before it.
      rw [same, List.getElem?_concat_length] at found
      rw [List.getElem?_append_left (by omega)] at here
      rw [List.getLast?_eq_getElem?, ← same, Nat.add_sub_cancel, here] at final
      obtain rfl := Option.some.inj found
      obtain rfl := Option.some.inj final
      rw [same, List.take_left]
      exact follows
    · rw [List.getElem?_eq_none (by rw [List.length_append]; exact above)] at found
      cases found

end Succession

section Steps

variable {s : OrchestrationStore} {run : OrchestrationRun} {mode : DelegationMode}
  {d : Delegation}

/-- What `delegate` files follows the last delegation of its task. -/
theorem Delegating.succession (h : Delegating s run mode d)
    (reassigns : mode ≠ .initial → Reassigns s (s.delegationsFor run.id d.taskId) mode d)
    (held : Succession (s.delegationsFor run.id d.taskId)) :
    Succession (s.delegationsFor run.id d.taskId ++ [d]) := by
  have ordinals := h.ordinals
  cases mode with
  | initial =>
      rw [(h.first rfl).1] at ordinals ⊢
      obtain ⟨retries, redelegations⟩ := Prod.mk.inj ordinals
      exact .single retries redelegations
  | retry =>
      obtain ⟨last, final, -⟩ := h.retry rfl
      simp only [nextOrdinals, final, Prod.mk.injEq, if_true, if_false, reduceCtorEq] at ordinals
      exact held.snoc final (.retry ordinals.1 ordinals.2
        ((reassigns (by simp)).same rfl last final))
  | redelegate =>
      obtain ⟨last, final, -⟩ := h.redelegate rfl
      simp only [nextOrdinals, final, Prod.mk.injEq, if_true, if_false, reduceCtorEq] at ordinals
      refine held.snoc final (.redelegation ordinals.1 ordinals.2 fun earlier mem same => ?_)
      exact h.others rfl earlier mem same.symm
  | unknown text => exact (h.known text rfl).elim

theorem delegationsFor_of_delegations {s' : OrchestrationStore}
    (same : s'.delegations = s.delegations) (runId : OrchestrationRunId) (taskId : TaskId) :
    s'.delegationsFor runId taskId = s.delegationsFor runId taskId := by
  unfold OrchestrationStore.delegationsFor OrchestrationTables.delegationsOf
  rw [same]

/-- What has been found, in the store in between, before a delegation is filed, and what is
left. -/
structure Assigning (s mid : OrchestrationStore) (d : Delegation) (s' : OrchestrationStore) :
    Prop where
  delegating : ∃ run mode, Delegating mid run mode d ∧
    (mode ≠ .initial → Reassigns mid (mid.delegationsFor run.id d.taskId) mode d)
  before : mid.delegations = s.delegations
  attempted : mid.attempts = s.attempts
  filed : s'.delegations = mid.delegations.put d
  attempts : s'.attempts = mid.attempts
  grown : Grown mid.runtime s'.runtime

namespace Assigning

variable {mid s' : OrchestrationStore}

theorem absent (h : Assigning s mid d s') : s.delegations.get? d.id = none := by
  obtain ⟨run, mode, delegating, -⟩ := h.delegating
  rw [← h.before]
  exact delegating.filed.absent

theorem succession (h : Assigning s mid d s')
    (held : ∀ runId taskId, Succession (s.delegationsFor runId taskId)) :
    ∀ runId taskId, Succession (s'.delegationsFor runId taskId) := by
  intro runId taskId
  have filed := delegationsFor_put (s := s) h.absent runId taskId
  have list : s'.delegationsFor runId taskId = s.delegationsFor runId taskId ++
      if d.orchestrationRunId = runId ∧ d.taskId = taskId then [d] else [] := by
    rw [← filed]
    exact delegationsFor_of_delegations (h.filed.trans (by rw [h.before])) runId taskId
  rw [list]
  split
  · next own =>
      obtain ⟨rfl, rfl⟩ := own
      obtain ⟨run, mode, delegating, reassigns⟩ := h.delegating
      have same := delegationsFor_of_delegations h.before run.id d.taskId
      rw [delegating.own, ← same]
      refine delegating.succession reassigns ?_
      rw [same]
      exact held run.id d.taskId
  · rw [List.append_nil]
    exact held runId taskId

/-- The last agent run of the delegation before it has failed. -/
theorem lastFailed (h : Assigning s mid d s') {last : Delegation}
    (final : (s.delegationsFor d.orchestrationRunId d.taskId).getLast? = some last) :
    LastFailed mid last ∧ LastFailed s' last := by
  obtain ⟨run, mode, delegating, reassigns⟩ := h.delegating
  rw [delegating.own, ← delegationsFor_of_delegations h.before] at final
  have later : mode ≠ .initial := by
    rintro rfl
    rw [(delegating.first rfl).1] at final
    cases final
  obtain ⟨other, final', failed⟩ := (reassigns later).failed
  obtain rfl : last = other := Option.some.inj (final.symm.trans final')
  exact ⟨failed, failed.kept h.attempts h.grown⟩

end Assigning

theorem Delegated.assigning {mid s' : OrchestrationStore} {taskId : TaskId}
    {answer : Option Delegation} (h : Delegated mid s' run taskId mode answer)
    (reassigns : ∀ d, answer = some d → mode ≠ .initial →
      Reassigns mid (mid.delegationsFor run.id taskId) mode d)
    (before : mid.delegations = s.delegations) (attempted : mid.attempts = s.attempts) :
    s'.delegations = s.delegations ∨ ∃ d, Assigning s mid d s' := by
  cases h with
  | replayed last initial final unstarted same =>
      rw [same]
      exact .inl before
  | waiting changes => exact .inl ((changes.delegations (by decide)).trans before)
  | made d task delegating logged =>
      subst task
      exact .inr ⟨d, ⟨run, mode, delegating, reassigns d rfl⟩, before, attempted,
        logged.delegations, logged.attempts, logged.grown⟩

/-- Only a handoff does more than to delegate when it makes a delegation. -/
def Label.handsOff : Label → Bool
  | .command _ (.handOff ..) => true
  | _ => false

theorem step_assigns (platform : Platform) {c : Company} (sound : c.Sound) (label : Label) :
    (c.step platform label).store.delegations = c.store.delegations ∨
      ∃ mid d, Assigning c.store mid d (c.step platform label).store ∧
        (label.handsOff = false → mid = c.store) := by
  by_cases delegates : .delegated ∈ stepKinds c label
  · cases label with
    | command host command =>
        cases command with
        | delegate workspaceId runId taskId expected mode target =>
            rcases ran_or_same (c := c) (m := delegate platform.toEnv host workspaceId runId taskId
              expected mode target) (.atomic _) with same | ⟨answer, w', ran, same⟩
            · exact .inl (congrArg (fun s : OrchestrationStore => s.delegations) same)
            · obtain ⟨run, stored, -, delegated⟩ := delegate_eq_ok ran
              have named : run.id = runId := id_of_stored stored
              have reassigns (d : Delegation) (made : answer = some d) (later : mode ≠ .initial) :
                  Reassigns c.store (c.store.delegationsFor run.id taskId) mode d := by
                rw [made] at ran
                rw [named]
                exact delegate_reassigns later ran
              show (c.ran _).store.delegations = _ ∨ _
              rcases delegated.assigning reassigns rfl rfl with kept | ⟨d, assigning⟩
              · exact .inl (same ▸ kept)
              · refine .inr ⟨c.store, d, ?_, fun _ => rfl⟩
                show Assigning c.store c.store d (c.ran _).store
                rw [same]
                exact assigning
        | handOff workspaceId runId senderId senderVersion taskId selected =>
            let m := handOff platform.toEnv host workspaceId runId senderId senderVersion taskId
              selected
            rcases ran_or_same (c := c) (m := atomic m) (.atomic _) with
              same | ⟨answer, w', ran, same⟩
            · exact .inl (congrArg (fun s : OrchestrationStore => s.delegations) same)
            · obtain ⟨yielded, mid, run, yielding, -, left, stored, -, -, delegated, v, version,
                rfl, delegating⟩ := handOff_eq_ok (atomic_eq_ok.mp ran)
              have named : run.id = runId := id_of_stored stored
              have reassigns (d : Delegation) (made : answer = some d)
                  (later : DelegationMode.redelegate ≠ .initial) :
                  Reassigns v.store (v.store.delegationsFor run.id taskId) .redelegate d := by
                rw [made] at delegating
                rw [named]
                exact delegate_reassigns later delegating
              have before := (left.delegations (by decide)).trans yielding.delegations
              have attempted := (left.attempts (by decide)).trans yielding.attempts
              show (c.ran (atomic m)).store.delegations = _ ∨ _
              rcases delegated.assigning reassigns before attempted with kept | ⟨d, assigning⟩
              · exact .inl (same ▸ kept)
              · refine .inr ⟨v.store, d, ?_, nofun⟩
                show Assigning c.store v.store d (c.ran (atomic m)).store
                rw [same]
                exact assigning
        | _ => simp [stepKinds, commandKinds] at delegates
    | advance id answer =>
        cases found : c.call? id with
        | none => simp [stepKinds, found] at delegates
        | some call =>
            cases at' : call.point <;> simp [stepKinds, found, at', pointKinds] at delegates
    | runtime label => simp [stepKinds] at delegates
    | drop id => simp [stepKinds] at delegates
  · exact .inl ((step_changes platform sound label).delegations delegates)

end Steps

/-! ## The delegations of every task -/

theorem after_succession (platform : Platform) (labels : List Label) :
    ∀ runId taskId, Succession
      ((Company.after platform labels).store.delegationsFor runId taskId) := by
  apply after_invariant platform (P := fun c => ∀ runId taskId,
    Succession (c.store.delegationsFor runId taskId))
  · exact fun _ _ => .nil
  · intro c label sound held
    rcases step_assigns platform sound label with same | ⟨mid, d, assigning, -⟩
    · intro runId taskId
      rw [delegationsFor_of_delegations same]
      exact held runId taskId
    · exact assigning.succession held

/-- The delegations of a task, in the order in which they were made. -/
def OrchestrationStore.delegationsOn (s : OrchestrationStore) (taskId : TaskId) :
    List Delegation :=
  s.delegations.values.filter (·.taskId = taskId)

/-- The delegations of a task belong to one run. -/
theorem delegationsOn_eq {s : OrchestrationStore} (assigned : Assigned s)
    (materials : Materials s) {d : Delegation} (mem : d ∈ s.delegations.values) :
    s.delegationsOn d.taskId = s.delegationsFor d.orchestrationRunId d.taskId := by
  obtain ⟨plan, m, stored, own, filed, item, here, -, task⟩ := assigned d mem
  have listed := Registry.mem_values_of_get? filed
  unfold OrchestrationStore.delegationsOn OrchestrationStore.delegationsFor
    OrchestrationTables.delegationsOf
  rw [List.filter_filter]
  refine List.filter_congr fun other mem' => ?_
  by_cases same : other.taskId = d.taskId
  · have first := assigned.own materials mem listed here task.symm
    have second := assigned.own materials mem' listed here (same.trans task.symm)
    simp [same, first, second]
  · simp [same]

/-- In every reached state the delegations of a task are a succession within the limits of
its run's policy. A step leaves them as they are, or adds one to them when the last agent run
of the latest one has failed: before the step, or in a handoff that ends this agent run. -/
theorem delegations_per_task (platform : Platform) (labels : List Label) (taskId : TaskId) :
    (∀ d ∈ (Company.after platform labels).store.delegationsOn taskId,
      ∃ run, (Company.after platform labels).store.runs.get? d.orchestrationRunId = some run ∧
        ((Company.after platform labels).store.delegationsOn taskId).length ≤
          1 + run.policy.maxRetriesPerTask + run.policy.maxRedelegationsPerTask) ∧
    Succession ((Company.after platform labels).store.delegationsOn taskId) ∧
    ∀ label, (Company.after platform (labels ++ [label])).store.delegationsOn taskId =
        (Company.after platform labels).store.delegationsOn taskId ∨
      ∃ d, (Company.after platform (labels ++ [label])).store.delegationsOn taskId =
          (Company.after platform labels).store.delegationsOn taskId ++ [d] ∧
        ∀ last, ((Company.after platform labels).store.delegationsOn taskId).getLast? = some last →
          LastFailed (Company.after platform (labels ++ [label])).store last ∧
          (label.handsOff = false → LastFailed (Company.after platform labels).store last) := by
  have assigned := after_assigned platform labels
  have materials := after_materials platform labels
  refine ⟨?_, ?_, fun label => ?_⟩
  · intro d mem
    obtain ⟨stored, task⟩ := List.mem_filter.mp mem
    have task : d.taskId = taskId := of_decide_eq_true task
    obtain ⟨run, found, -⟩ := (after_sound platform labels).ledger.delegated d stored
    have named : OrchestrationRun.key run = d.orchestrationRunId := Registry.key_of_get? found
    refine ⟨run, found, ?_⟩
    rw [← task, delegationsOn_eq assigned materials stored, ← named]
    exact (after_allNumbered platform labels run (Registry.mem_values_of_get? found) _).length_le
  · cases first : (Company.after platform labels).store.delegationsOn taskId with
    | nil => exact .nil
    | cons d rest =>
        have mem : d ∈ (Company.after platform labels).store.delegationsOn taskId := by
          rw [first]
          exact List.mem_cons_self
        obtain ⟨stored, task⟩ := List.mem_filter.mp mem
        have task : d.taskId = taskId := of_decide_eq_true task
        rw [← first, ← task, delegationsOn_eq assigned materials stored]
        exact after_succession platform labels _ _
  · have later : Company.after platform (labels ++ [label]) =
        (Company.after platform labels).step platform label := after_append platform labels [label]
    have assigned' := after_assigned platform (labels ++ [label])
    have materials' := after_materials platform (labels ++ [label])
    rw [later] at assigned' materials' ⊢
    rcases step_assigns platform (after_sound platform labels) label with
      same | ⟨mid, d, assigning, direct⟩
    · refine .inl ?_
      unfold OrchestrationStore.delegationsOn
      rw [same]
    · have filed := assigning.filed
      rw [assigning.before] at filed
      have list : ((Company.after platform labels).step platform label).store.delegationsOn taskId =
          (Company.after platform labels).store.delegationsOn taskId ++
            if d.taskId = taskId then [d] else [] := by
        unfold OrchestrationStore.delegationsOn
        rw [filed, Registry.values_put_of_absent assigning.absent, List.filter_append]
        by_cases own : d.taskId = taskId <;> simp [own]
      by_cases own : d.taskId = taskId
      · rw [if_pos own] at list
        refine .inr ⟨d, list, fun last final => ?_⟩
        subst own
        -- The last delegation of the task belongs to the run of the new one.
        have old := List.mem_of_getLast? final
        have stored : d ∈ ((Company.after platform labels).step platform
            label).store.delegations.values := by
          rw [filed]
          exact Registry.mem_values_put.mpr (.inl rfl)
        have within : last ∈ ((Company.after platform labels).step platform
            label).store.delegationsOn d.taskId := by
          rw [list]
          exact List.mem_append_left _ old
        rw [delegationsOn_eq assigned' materials' stored] at within
        obtain ⟨-, sameRun, sameTask⟩ := mem_delegationsFor.mp within
        have before := delegationsOn_eq assigned materials (List.mem_filter.mp old).1
        rw [sameRun, sameTask] at before
        rw [before] at final
        obtain ⟨failedThen, failed⟩ := assigning.lastFailed final
        exact ⟨failed, fun straight => direct straight ▸ failedThen⟩
      · rw [if_neg own, List.append_nil] at list
        exact .inl list

end AgentCompanyOS.Orchestration
