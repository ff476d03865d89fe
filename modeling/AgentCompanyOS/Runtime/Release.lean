import AgentCompanyOS.Domain.Outcomes
import AgentCompanyOS.Runtime.Quarantine

/-!
# Releasing a restored workspace

A release succeeds exactly when its request is authorized, intact and classified and
every governed record of the workspace is held. Holds are written only by a restore, so
after it a release of the workspace depends on the records that have been stored since:
an invocation may store one, it has no hold, and the release is denied. Nothing else
stores a record.
-/

set_option autoImplicit false

namespace AgentCompanyOS.Runtime

open Foundation Foundation.Txn Domain

variable {platform : Platform}

/-! ## When a release succeeds -/

/-- Whether a release returns a success. -/
def releases (request : ReleaseRequest) (w : World RuntimeStore) : Bool :=
  match release request w with
  | .ok result _ => result.success
  | .error _ _ => false

theorem releaseReason_of_released {request : ReleaseRequest} {w : World RuntimeStore}
    (released : Released w.store request) {workspace : Workspace}
    (stored : w.store.domain.workspaces.get? request.workspaceId = some workspace) :
    ∃ cases, releaseReason request (w.store.mode request.workspaceId)
      (w.store.restoreContext request.workspaceId) w =
        .ok (.validatedWithRestoredIntentsHeld, cases) w := by
  obtain ⟨cases, classified⟩ := released.classified
  refine ⟨cases, ?_⟩
  unfold releaseReason
  rw [if_neg (by simp [released.authorized]), if_neg (not_not.mpr released.quarantined),
    if_neg released.provenance, if_neg (by simp [released.integrity])]
  have answered : Runtime.classified request w = .ok (some cases) w := by
    unfold Runtime.classified
    rw [classified]
    rfl
  rw [bind_of_ok answered, bind_of_ok (workspace_of_found stored)]
  have fenced : w.store.fenced request.workspaceId = true :=
    RuntimeStore.fenced_eq_true.mpr released.fenced
  have reason : fencedReason w.store request.workspaceId (some cases) =
      .validatedWithRestoredIntentsHeld := by simp [fencedReason, fenced]
  show EStateM.Result.ok (fencedReason w.store request.workspaceId (some cases), cases) w = _
  rw [reason]

/-- A release succeeds exactly when it passes every check. -/
theorem releases_iff {request : ReleaseRequest} {w : World RuntimeStore} :
    releases request w = true ↔ Released w.store request ∧
      ∃ workspace, w.store.domain.workspaces.get? request.workspaceId = some workspace := by
  constructor
  · intro success
    unfold releases at success
    cases h : release request w with
    | error e w' =>
        rw [h] at success
        cases success
    | ok result w' =>
        rw [h] at success
        have h := atomic_eq_ok.mp h
        obtain ⟨mode, read, h⟩ := (reads_operationalMode _).then h
        obtain ⟨workspace, stored, read⟩ := entity_then (E := Workspace) read
        have read := getStore_then read
        obtain ⟨rfl, -⟩ := pure_eq_ok.mp read
        have h := getStore_then h
        obtain ⟨outcome, reasoned, h⟩ := (reads_releaseReason _ _ _).then h
        obtain ⟨_, v, -, h⟩ := bind_eq_ok.mp h
        obtain ⟨_, v', -, h⟩ := bind_eq_ok.mp h
        obtain ⟨rfl, -⟩ := pure_eq_ok.mp h
        exact ⟨releaseReason_validated reasoned (of_decide_eq_true success), workspace, stored⟩
  · rintro ⟨released, workspace, stored⟩
    obtain ⟨cases, reasoned⟩ := releaseReason_of_released released stored
    have mode : operationalMode request.workspaceId w =
        .ok (w.store.mode request.workspaceId) w := bind_of_ok (workspace_of_found stored) _
    unfold releases release atomic
    rw [bind_of_ok mode, bind_of_ok (show getStore w = .ok w.store w from rfl),
      bind_of_ok reasoned]
    rfl

/-! ## Records and holds -/

/-- A step that does not release or restore. -/
def Label.ordinary : Label → Bool
  | .restore _ => false
  | .command (.release _) => false
  | _ => true

/-- A step of a call that is about to claim a tool invocation. -/
def Label.invokes (s : Sys) : Label → Bool
  | .advance id _ =>
      match (s.call? id).map Call.point with
      | some (.invoke ..) => true
      | _ => false
  | _ => false

section Records

variable {K : List Kind}

/-- Without a new record, the governed table keeps its keys. -/
theorem Write.governed_keys {s s' : RuntimeStore} (write : Write K s s')
    (noPrepare : .prepare ∉ K) (id : ActionIntentId) :
    s'.governed.contains id = s.governed.contains id := by
  have kept : ∀ {old record : GovernedAction},
      s.governed.get? record.intent.id = some old →
      (s.governed.put record).contains id = s.governed.contains id := by
    intro old record present
    unfold Registry.contains
    rw [Registry.get?_put]
    split
    · next same =>
        replace same : record.intent.id = id := same
        rw [← same, present]
        rfl
    · rfl
  cases write with
  | prepare allowed => exact absurd allowed noPrepare
  | review allowed _ old record present history => exact kept present
  | claim allowed _ old record present history => exact kept present
  | _ => rfl

theorem writes_governed_keys {s s' : RuntimeStore}
    (moved : Relation.ReflTransGen (Write K) s s') (noPrepare : .prepare ∉ K)
    (id : ActionIntentId) : s'.governed.contains id = s.governed.contains id :=
  writes_induct (P := fun t => t.governed.contains id = s.governed.contains id)
    (fun write same => (write.governed_keys noPrepare id).trans same) moved rfl

end Records

/-- Only a step that claims an invocation stores a governed record. -/
theorem governed_keys_step {s : Sys} {label : Label} (other : label.invokes s = false)
    (id : ActionIntentId) :
    (s.step platform label).store.governed.contains id = s.store.governed.contains id := by
  cases label with
  | «open» host request => rfl
  | advance n input =>
      refine Sys.advance_cases
        (fun t => t.store.governed.contains id = s.store.governed.contains id)
        platform s n input (fun call found => ?_) ?_
      · have point : ∀ workspaceId runId action expected,
            call.point ≠ .invoke workspaceId runId action expected := by
          intro workspaceId runId action expected at'
          simp [Label.invokes, found, at'] at other
        cases advance_effect platform s.shared call input with
        | wrote later moved =>
            refine writes_governed_keys moved ?_ id
            intro prepares
            cases at' : call.point with
            | invoke workspaceId runId action expected => exact point _ _ _ _ at'
            | _ => simp [at', Point.kinds] at prepares
        | dispatched workspaceId runId action expected at' => exact absurd at' (point _ _ _ _)
      · rfl
  | drop n => rfl
  | crash => rfl
  | command command =>
      cases kind : command.operational with
      | false =>
          have moved := (command_writes platform command kind s.shared.world).2
          refine writes_governed_keys moved ?_ id
          intro prepares
          cases command with
          | domain command =>
              have kind := (List.mem_singleton.mp prepares).symm
              simpa using commandKind_mem (List.mem_singleton.mpr kind)
          | _ => simp [HostCommand.kinds] at prepares
      | true =>
          obtain ⟨⟨o, same⟩, -⟩ := (command_operates platform command kind s.shared.world).2
          have governed := congrArg RuntimeStore.governed same
          exact congrArg (fun t => Registry.contains t id) governed
  | restore request =>
      show (s.restored request).shared.world.store.governed.contains id = _
      unfold Sys.restored
      cases h : Runtime.restore request s.shared.world with
      | ok u w => exact congrArg (fun t => Registry.contains t id) (restore_eq_ok h).governed
      | error e w => rfl

theorem CallEffect.holds_eq {call : Call} {w w' : World RuntimeStore}
    (h : CallEffect platform call w w') : w'.store.holds = w.store.holds := by
  cases h with
  | wrote later moved => exact writes_frame (fun write => write.operational_eq.2.1) moved
  | dispatched workspaceId runId action expected point later d governed v same facts =>
      exact facts.operational_eq.2.1

theorem holds_restrict (workspaceId : WorkspaceId) (mode : OperationalMode) (principal : PyStr)
    (at' : Instant) :
    Moves (Guarantee.framing RuntimeStore.holds) (restrict workspaceId mode principal at') :=
  (Moves.raiseIf _ _).bind fun _ => Moves.atomic ((reads_operationalMode _).moves.bind fun _ =>
    (Moves.raiseIf _ _).bind fun _ => Moves.modifyStore fun _ => rfl)

theorem holds_release (request : ReleaseRequest) :
    Moves (Guarantee.framing RuntimeStore.holds) (release request) :=
  Moves.atomic ((reads_operationalMode _).moves.bind fun _ => Moves.getStore.bind fun _ =>
    (reads_releaseReason _ _ _).moves.bind fun _ =>
    (Moves.runIf fun _ => Moves.modifyStore fun _ => rfl).bind fun _ =>
    (Moves.modifyStore fun _ => rfl).bind fun _ => Moves.pure _)

/-- Only a restore writes holds. -/
theorem holds_step {s : Sys} {label : Label} (other : ∀ request, label ≠ .restore request) :
    (s.step platform label).store.holds = s.store.holds := by
  cases label with
  | «open» host request => rfl
  | advance n input =>
      refine Sys.advance_cases (fun t => t.store.holds = s.store.holds) platform s n input
        (fun call found => ?_) rfl
      exact (advance_effect platform s.shared _ input).holds_eq
  | drop n => rfl
  | crash => rfl
  | command command =>
      cases kind : command.operational with
      | false =>
          have moved := (command_writes platform command kind s.shared.world).2
          exact writes_frame (fun write => write.operational_eq.2.1) moved
      | true =>
          cases command with
          | restrict workspaceId mode principal at' =>
              exact (holds_restrict workspaceId mode principal at' s.shared.world).2
          | release request => exact ((holds_release request).discard s.shared.world).2
          | _ => cases kind
  | restore request => exact absurd rfl (other request)

/-! ## Every hold is for a stored record -/

/-- Every hold names a stored record of its workspace. -/
structure HoldsStored (s : RuntimeStore) : Prop where
  record : ∀ row ∈ s.holds, ∃ record, s.governed.get? row.intentId = some record ∧
    record.intent.workspaceId = row.workspaceId

/-- A later record of the same intent. -/
def KeepsIntent (old record : GovernedAction) : Prop := record.intent = old.intent

theorem KeepsIntent.refl (record : GovernedAction) : KeepsIntent record record := rfl

theorem KeepsIntent.trans {a b c : GovernedAction} (h : KeepsIntent a b) (h' : KeepsIntent b c) :
    KeepsIntent a c := Eq.trans h' h

/-- No write takes a record away or changes its intent. -/
theorem intents_write {s s' : RuntimeStore} (write : Write ordinaryKinds s s') :
    s.governed.Evolves KeepsIntent s'.governed := by
  cases write with
  | prepare allowed _ record absent savable =>
      refine .put KeepsIntent.refl fun old stored => ?_
      cases absent.symm.trans stored
  | review allowed _ old record present history kept =>
      refine .put KeepsIntent.refl fun stored found => ?_
      obtain rfl := Option.some.inj (present.symm.trans found)
      exact history.1
  | claim allowed => simp at allowed
  | _ => exact .refl KeepsIntent.refl _

theorem intents_writes {s s' : RuntimeStore}
    (moved : Relation.ReflTransGen (Write ordinaryKinds) s s') :
    s.governed.Evolves KeepsIntent s'.governed :=
  writes_induct
    (P := fun t => s.governed.Evolves KeepsIntent t.governed)
    (fun write h => .trans (R := KeepsIntent) KeepsIntent.trans h (intents_write write)) moved
    (.refl KeepsIntent.refl _)

theorem Effect.intents {w w' : World RuntimeStore} (h : Effect platform w w') :
    w.store.governed.Evolves KeepsIntent w'.store.governed := by
  cases h with
  | wrote later moved => exact intents_writes moved
  | dispatched later host runId expected d governed v facts =>
      have reviewed := intents_writes (widen (by simp) facts.review)
      have recorded := facts.claimed.governed
      have grant := facts.grant
      refine .trans (R := KeepsIntent) KeepsIntent.trans reviewed ?_
      cases grant with
      | reading risk message same =>
          rw [show w'.store.governed = v.store.governed from recorded]
          exact .refl KeepsIntent.refl _
      | reviewed record granted =>
          obtain ⟨claimed, fields, after⟩ := recorded
          have intent : claimed.intent = record.intent :=
            (congrArg GovernedFields.intent fields).trans rfl
          rw [after]
          refine .put KeepsIntent.refl fun old stored => ?_
          rw [show GovernedAction.key claimed = record.intent.id from
            congrArg ActionIntent.id intent, granted.prepared.stored] at stored
          rw [← Option.some.inj stored]
          exact intent
  | operated later change =>
      obtain ⟨⟨o, same⟩, -⟩ := change
      rw [same]
      exact .refl KeepsIntent.refl _

theorem HoldsStored.step {s : Sys} (h : HoldsStored s.store) (label : Label) :
    HoldsStored (s.step platform label).store := by
  have intents := (step_effect platform s label).intents
  have kept : ∀ row ∈ s.store.holds, ∃ record,
      (s.step platform label).store.governed.get? row.intentId = some record ∧
        record.intent.workspaceId = row.workspaceId := by
    intro row mem
    obtain ⟨old, stored, here⟩ := h.record row mem
    obtain ⟨record, found, same⟩ := intents.later stored
    exact ⟨record, found, (congrArg ActionIntent.workspaceId same).trans here⟩
  constructor
  intro row mem
  by_cases restores : ∃ request, label = .restore request
  · obtain ⟨request, rfl⟩ := restores
    replace mem : row ∈ (s.restored request).shared.world.store.holds := mem
    unfold Sys.restored at mem
    cases h' : Runtime.restore request s.shared.world with
    | ok u w =>
        rw [h'] at mem
        rcases (restore_eq_ok h').rows row mem with old | ⟨record, stored, here, key⟩
        · exact kept row old
        · obtain ⟨later, found, same⟩ := intents.later (Registry.get?_of_mem_values stored)
          refine ⟨later, ?_, (congrArg ActionIntent.workspaceId same).trans here⟩
          rw [← key]
          exact found
    | error e w =>
        rw [h'] at mem
        exact kept row mem
  · rw [holds_step fun request same => restores ⟨request, same⟩] at mem
    exact kept row mem

theorem HoldsStored.after (platform : Platform) (labels : List Label) :
    HoldsStored (Sys.after platform labels).store :=
  Sys.run_keeps (P := fun s => HoldsStored s.store) (fun _ label h => h.step label)
    ⟨fun row mem => by cases mem⟩ labels

/-! ## Before the release -/

theorem newest_ne_none {rows : List IncidentRow} {best : Option IncidentRow}
    (some' : best ≠ none ∨ rows ≠ []) :
    rows.foldl (fun best row =>
      match best with
      | some old => if old.generation < row.generation then some row else some old
      | none => some row) best ≠ none := by
  induction rows generalizing best with
  | nil => simpa using some'
  | cons row rest ih =>
      refine ih (.inl ?_)
      cases best with
      | none => simp
      | some old =>
          dsimp only
          split <;> simp

/-- A workspace with an incident has a restore context. -/
theorem restoreContext_of_mem {s : RuntimeStore} {row : IncidentRow} {workspaceId : WorkspaceId}
    (mem : row ∈ s.incidents) (here : row.workspaceId = workspaceId) :
    s.restoreContext workspaceId ≠ none := by
  refine newest_ne_none (.inr ?_)
  have listed : row ∈ s.incidents.filter (·.workspaceId = workspaceId) :=
    List.mem_filter.mpr ⟨mem, decide_eq_true here⟩
  exact List.ne_nil_of_mem listed

/-- What a run of ordinary steps keeps of a quarantined database. -/
structure Quarantined (s t : RuntimeStore) (workspaceId : WorkspaceId) : Prop where
  mode : t.mode workspaceId = .restoreQuarantine
  holds : t.holds = s.holds
  incidents : s.incidents <+: t.incidents
  domain : Extends s.domain t.domain

theorem Quarantined.step {s : RuntimeStore} {t : Sys} {workspaceId : WorkspaceId}
    (h : Quarantined s t.store workspaceId) {label : Label} (ordinary : label.ordinary = true) :
    Quarantined s (t.step platform label).store workspaceId := by
  have effect := step_effect platform t label
  refine ⟨?_, ?_, h.incidents.trans effect.operational_prefix.2, h.domain.trans effect.extends⟩
  · by_contra ended
    obtain ⟨request, rfl, -⟩ := quarantine_step h.mode ended
    cases ordinary
  · refine (holds_step fun request same => ?_).trans h.holds
    subst same
    cases ordinary

theorem Quarantined.run {s : RuntimeStore} {later : List Label} {t : Sys}
    {workspaceId : WorkspaceId} (ordinary : ∀ label ∈ later, label.ordinary = true)
    (h : Quarantined s t.store workspaceId) :
    Quarantined s (Sys.run platform t later).store workspaceId := by
  induction later generalizing t with
  | nil => exact h
  | cons label rest ih =>
      exact ih (fun l mem => ordinary l (List.mem_cons_of_mem _ mem))
        (h.step (ordinary label List.mem_cons_self))

/-- A record is held exactly when it was stored at the restore. -/
theorem held_iff_stored {s t : RuntimeStore} {workspaceId : WorkspaceId}
    (fenced : ∀ record ∈ s.governed.values, record.intent.workspaceId = workspaceId →
      s.held workspaceId record.intent.id = true)
    (holdsStored : HoldsStored s) (same : t.holds = s.holds) {id : ActionIntentId}
    (here : ∀ old, s.governed.get? id = some old → old.intent.workspaceId = workspaceId) :
    t.held workspaceId id = true ↔ s.governed.contains id = true := by
  have held : t.held workspaceId id = s.held workspaceId id := by
    unfold RuntimeStore.held
    rw [same]
  rw [held]
  constructor
  · intro held
    obtain ⟨row, mem, named⟩ := List.any_eq_true.mp held
    obtain ⟨record, stored, -⟩ := holdsStored.record row mem
    obtain ⟨-, key⟩ := of_decide_eq_true named
    rw [key] at stored
    exact Option.isSome_iff_exists.mpr ⟨record, stored⟩
  · intro stored
    obtain ⟨record, found⟩ := Option.isSome_iff_exists.mp stored
    have key : GovernedAction.key record = id := Registry.key_of_get? found
    rw [← key]
    exact fenced record (Registry.mem_values_of_get? found) (here record found)

/-- A database after a restore and ordinary steps: what the snapshot had is still held,
only an invocation stores another record, which has no hold, and a release that is
authorized, intact and classified succeeds exactly when no such record has been stored. -/
theorem release_needs_snapshot_records (platform : Platform) (labels : List Label)
    (request : RestoreRequest) {w : World RuntimeStore}
    (restored : Runtime.restore request (Sys.after platform labels).shared.world = .ok () w)
    (later : List Label) (ordinary : ∀ label ∈ later, label.ordinary = true) :
    let s := Sys.after platform (labels ++ [.restore request])
    let t := Sys.after platform (labels ++ .restore request :: later)
    (∀ id record, s.store.governed.get? id = some record → StaysHeld t.store id record) ∧
    (∀ label, label.invokes t = false → ∀ id,
      (t.step platform label).store.governed.contains id = t.store.governed.contains id) ∧
    (∀ record ∈ t.store.governed.values, record.intent.workspaceId = request.workspaceId →
      (t.store.held request.workspaceId record.intent.id = true ↔
        s.store.governed.contains record.intent.id = true)) ∧
    (∀ asked : ReleaseRequest, asked.workspaceId = request.workspaceId →
      asked.authorized = true → asked.integrity = true →
      (∃ cases, asked.classification = .ok cases) →
      (releases asked t.shared.world = true ↔
        ∀ record ∈ t.store.governed.values, record.intent.workspaceId = request.workspaceId →
          s.store.governed.contains record.intent.id = true)) := by
  intro s t
  have found := restore_eq_ok restored
  have store : s.store = w.store := by
    show (Sys.after platform (labels ++ [.restore request])).store = w.store
    rw [Sys.after_concat]
    exact Sys.restored_store restored
  have run : t = Sys.run platform s later := by
    show Sys.run platform .empty (labels ++ .restore request :: later) = _
    rw [show labels ++ .restore request :: later = (labels ++ [.restore request]) ++ later by simp,
      Sys.run_append]
  have kept : Quarantined s.store t.store request.workspaceId := by
    rw [run]
    refine Quarantined.run ordinary ⟨?_, rfl, List.prefix_rfl, .refl _⟩
    rw [store]
    exact (found.modes request.workspaceId).trans (if_pos rfl)
  have held : ∀ id, t.store.held request.workspaceId id = true ↔
      s.store.governed.contains id = true := by
    intro id
    refine held_iff_stored (fun record mem here => ?_) (HoldsStored.after _ _) kept.holds
      fun old stored => ?_
    · rw [store] at mem ⊢
      rw [found.governed] at mem
      exact found.held record mem here
    · rw [store, found.governed] at stored
      exact found.workspace (Housed.after platform labels) stored
  refine ⟨fun id record stored => ?_, fun label other id => governed_keys_step other id,
    fun record _ _ => held record.intent.id, fun asked here authorized integrity classified => ?_⟩
  · rw [store, found.governed] at stored
    exact restored_holds platform labels request restored stored later
  · rw [releases_iff]
    constructor
    · rintro ⟨released, -⟩ record mem workspace
      have fenced := released.fenced record mem (workspace.trans here.symm)
      rw [here] at fenced
      exact (held record.intent.id).mp fenced
    · intro stored
      obtain ⟨workspace, mem, key⟩ : ∃ workspace ∈ s.store.domain.workspaces.values,
          Workspace.id workspace = request.workspaceId := by
        rw [store, found.domain]
        refine List.mem_map.mp ?_
        rw [found.only]
        exact List.mem_singleton_self _
      have present := Registry.get?_of_mem_values mem
      obtain ⟨later', found', -⟩ := kept.domain.workspaces.later present
      refine ⟨⟨authorized, here ▸ kept.mode, ?_, integrity, classified,
        fun record mem workspace => ?_⟩, later', ?_⟩
      · have incident : newIncident request (Sys.after platform labels).store ∈
            t.store.incidents := by
          refine kept.incidents.subset ?_
          rw [store, found.incidents]
          exact List.mem_append_right _ (List.mem_singleton_self _)
        exact restoreContext_of_mem incident here.symm
      · rw [here]
        exact (held record.intent.id).mpr (stored record mem (workspace.trans here))
      · rw [here, ← key]
        exact found'

/-! ### A drive in quarantine -/

section Sample

/-- Numbered identifiers, a clock that counts its readings, and a digest of the length. -/
def numberedPlatform : Platform where
  toEnv := numberedEnv
  sha256 bytes := (List.replicate 64 48 ++ pyNat bytes.length).drop (pyNat bytes.length).length
  floatRepr text := text
  scoreText _ := py "1.0"
  milliseconds duration := duration / 1000

abbrev sampleWorkspace : WorkspaceId := numbered .workspace 0

abbrev sampleRun : AgentRunId := numbered .agentRun 20

/-- A tool that sends a message to a fixture. -/
def sendTool : ToolVersion where
  definition := ⟨numbered .tool 900, sampleWorkspace, txt "send", txt "send", .externalWrite⟩
  version := .initial
  executorKind := .sendFixtureMessage
  timeoutSeconds := 5
  maxInputBytes := 512
  maxOutputBytes := 512
  limits := by decide

def sampleReviewer : ReviewerPrincipal := ⟨numbered .reviewer 901, sampleWorkspace⟩

/-- A policy that asks the reviewer. -/
def samplePolicy : ApprovalPolicy where
  workspaceId := sampleWorkspace
  version := .initial
  tools := [sendTool.grant]
  destinations := [py "fixture"]
  reviewers := [sampleReviewer]
  boundedExecute := true
  enabled := true
  expirySeconds := 300
  expiry := by decide
  sizes := by decide
  reviewersDistinct := by decide
  reviewersLocal := by decide
  destinationsBounded := by decide

/-- An agent that may send, under review. -/
def senderDefinition : AgentDefinitionVersion where
  definition := ⟨numbered .agentDefinition 902, sampleWorkspace, txt "agent"⟩
  version := .initial
  role := txt "sender"
  instructions := txt "send"
  allowedActions := [.callTool, .completeTask]
  autonomyCeiling := 2
  modelName := txt "model"
  allowedTools := [sendTool.grant]
  knowledgeSources := []
  knowledgeTrust := []
  memoryScopes := []
  enabled := true
  capabilities := []
  capabilityIds := []

def sampleHost : Host where
  governance := true
  registry := false
  executor grant := if grant = sendTool.grant then some (.recoverable false) else none
  tools := true
  knowledge := false
  memory := false
  communication := false
  modelName := txt "model"

def noAnswers : PortAnswers := ⟨.ok 0, .ok 0⟩

/-- A workspace with a run of the sender. -/
def startedRun : List Label := [
  .command (.domain (.createWorkspace (py "acme"))),
  .command (.domain (.createGoal ⟨sampleWorkspace, py "reach out", [py "sent"], []⟩)),
  .command (.domain (.activateGoal (numbered .goal 2) (changed 0))),
  .command (.domain (.createTask ⟨sampleWorkspace, numbered .goal 2, py "send", [py "sent"]⟩)),
  .command (.domain (.readyTask (numbered .task 6) (changed 0))),
  .command (.domain (.startTask (numbered .task 6) (changed 1))),
  .command (.domain (.createExecution ⟨sampleWorkspace, numbered .goal 2, py "op", 3, none⟩)),
  .command (.domain (.startExecution (numbered .execution 12) (changed 0))),
  .command (.domain (.createTaskAttempt
    ⟨sampleWorkspace, numbered .task 6, numbered .execution 12⟩)),
  .command (.domain (.startTaskAttempt (numbered .taskAttempt 16) (changed 0))),
  .command (.publishTool sendTool),
  .command (.publishApprovalPolicy samplePolicy),
  .command (.publishDefinition senderDefinition),
  .command (.startRun sampleHost ⟨sampleWorkspace, senderDefinition.definition.id, changed 0,
    numbered .taskAttempt 16, ⟨sampleWorkspace, numbered .task 6, [py "k"], [], []⟩, .default,
    none⟩)]

/-- The decision to send a message. -/
def sendDecision : PyStr :=
  py ("\x7b\"schema_version\":1,\"action_type\":\"call_tool\",\"payload\":" ++
    "\x7b\"tool_id\":\"id-900\",\"arguments\":\x7b\"destination\":\"fixture\"," ++
    "\"message\":\"hello\"\x7d\x7d\x7d")

/-- A drive of the run up to the transaction that claims its tool call. -/
def drivenToCall : List Label := [
  .open sampleHost (.drive sampleWorkspace sampleRun (changed 0)),
  .advance 0 .next,
  .advance 0 (.ports noAnswers),
  .advance 0 (.model (.ok sendDecision) noAnswers),
  .advance 0 .next]

def sampleRestore : RestoreRequest :=
  ⟨sampleWorkspace, py "backup", py "digest", py "admin", 0, true⟩

def sampleRelease : ReleaseRequest := ⟨sampleWorkspace, py "admin", 0, true, true, .ok 0⟩

/-- The restored database can be released at once, and after the drive it cannot: the
record that the drive has stored has no hold. -/
theorem new_record_denies_release :
    let restored := Sys.after numberedPlatform (startedRun ++ [.restore sampleRestore])
    let driven := Sys.after numberedPlatform (startedRun ++ .restore sampleRestore :: drivenToCall)
    (∀ label ∈ drivenToCall, label.ordinary = true) ∧
      restored.store.mode sampleWorkspace = .restoreQuarantine ∧
      releases sampleRelease restored.shared.world = true ∧
      releases sampleRelease driven.shared.world = false ∧
      ∃ record ∈ driven.store.governed.values, record.intent.workspaceId = sampleWorkspace ∧
        driven.store.held sampleWorkspace record.intent.id = false := by
  decide +kernel

/-- The drive in quarantine is a run of ordinary steps, so its release is denied for the
record that the snapshot does not have. -/
theorem release_after_drive :
    ∃ w, Runtime.restore sampleRestore (Sys.after numberedPlatform startedRun).shared.world =
        .ok () w ∧
      let restored := Sys.after numberedPlatform (startedRun ++ [.restore sampleRestore])
      let driven :=
        Sys.after numberedPlatform (startedRun ++ .restore sampleRestore :: drivenToCall)
      (releases sampleRelease driven.shared.world = true ↔
        ∀ record ∈ driven.store.governed.values,
          record.intent.workspaceId = sampleRestore.workspaceId →
            restored.store.governed.contains record.intent.id = true) := by
  have restored := ok_of_isOk (r := Runtime.restore sampleRestore
    (Sys.after numberedPlatform startedRun).shared.world) (by decide +kernel)
  refine ⟨_, restored, ?_⟩
  exact (release_needs_snapshot_records numberedPlatform startedRun sampleRestore restored
    drivenToCall (by decide)).2.2.2 sampleRelease rfl rfl rfl ⟨0, rfl⟩

end Sample

end AgentCompanyOS.Runtime
