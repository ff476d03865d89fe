import AgentCompanyOS.Runtime.WriteSafety

/-!
# Quarantine and restore fencing

A restore puts its workspace into quarantine and holds every governed record of the
snapshot. No later step takes a hold away, and a claim that dispatches needs an open
workspace and a record without a hold, so a held record is never claimed. The mode
leaves the quarantine only through a release that passed all its checks.
-/

set_option autoImplicit false

namespace AgentCompanyOS.Runtime

open Foundation Foundation.Txn Domain

variable {platform : Platform}

/-! ## Modes -/

theorem RuntimeStore.mode_setMode (s : RuntimeStore) (changed : WorkspaceId)
    (mode : OperationalMode) (workspaceId : WorkspaceId) :
    (s.setMode changed mode).mode workspaceId =
      if changed = workspaceId then mode else s.mode workspaceId := by
  have row := Registry.get?_put s.modes
    (⟨changed, mode, ((s.modes.get? changed).map fun row => row.version + 1).getD 1⟩ : ModeRow)
    workspaceId
  show ((Registry.get? (s.modes.put _) workspaceId).map ModeRow.mode).getD .normal = _
  rw [row]
  by_cases here : changed = workspaceId
  · simp [here]
  · simp only [here, if_false]
    rfl

/-- What a release has found when it opens a workspace. -/
structure Released (s : RuntimeStore) (request : ReleaseRequest) : Prop where
  authorized : request.authorized = true
  quarantined : s.mode request.workspaceId = .restoreQuarantine
  provenance : s.restoreContext request.workspaceId ≠ none
  integrity : request.integrity = true
  classified : ∃ cases, request.classification = .ok cases
  fenced : ∀ record ∈ s.governed.values, record.intent.workspaceId = request.workspaceId →
    s.held request.workspaceId record.intent.id = true

theorem RuntimeStore.fenced_eq_true {s : RuntimeStore} {workspaceId : WorkspaceId} :
    s.fenced workspaceId = true ↔ ∀ record ∈ s.governed.values,
      record.intent.workspaceId = workspaceId → s.held workspaceId record.intent.id = true := by
  unfold RuntimeStore.fenced
  rw [List.all_eq_true]
  constructor
  · intro all record mem here
    exact all record (List.mem_filter.mpr ⟨mem, decide_eq_true here⟩)
  · intro all record mem
    obtain ⟨mem, here⟩ := List.mem_filter.mp mem
    exact all record mem (of_decide_eq_true here)

theorem classified_eq_ok {request : ReleaseRequest} {answer : Option Nat}
    {w w' : World RuntimeStore} (h : classified request w = .ok answer w') (some : answer ≠ none) :
    ∃ cases, request.classification = .ok cases := by
  unfold classified at h
  cases answered : request.classification with
  | ok cases => exact ⟨cases, rfl⟩
  | error e =>
      rw [answered] at h
      cases e with
      | domain code => exact absurd (pure_eq_ok.mp h).1.symm some
      | _ => exact (raise_eq_ok.mp h).elim

/-- The checks of a release in their order: the one reason for success is the last. -/
theorem releaseReason_validated {request : ReleaseRequest} {outcome : ReleaseReason × Nat}
    {w w' : World RuntimeStore}
    (h : releaseReason request (w.store.mode request.workspaceId)
      (w.store.restoreContext request.workspaceId) w = .ok outcome w')
    (validated : outcome.1 = .validatedWithRestoredIntentsHeld) :
    Released w.store request := by
  unfold releaseReason at h
  split at h
  · obtain ⟨rfl, -⟩ := pure_eq_ok.mp h
    cases validated
  · next authorized =>
      split at h
      · obtain ⟨rfl, -⟩ := pure_eq_ok.mp h
        cases validated
      · next quarantined =>
          split at h
          · obtain ⟨rfl, -⟩ := pure_eq_ok.mp h
            cases validated
          · next provenance =>
              split at h
              · obtain ⟨rfl, -⟩ := pure_eq_ok.mp h
                cases validated
              · next integrity =>
                  obtain ⟨answer, answered, h⟩ := (reads_classified request).then h
                  obtain ⟨_, -, h⟩ := (reads_getWorkspace _).then h
                  have h := getStore_then h
                  obtain ⟨rfl, -⟩ := pure_eq_ok.mp h
                  replace validated : fencedReason w.store request.workspaceId answer =
                    .validatedWithRestoredIntentsHeld := validated
                  unfold fencedReason at validated
                  split at validated
                  · cases validated
                  · next fenced =>
                      split at validated
                      · cases validated
                      · next some =>
                          exact {
                            authorized := Bool.eq_true_of_not_eq_false authorized
                            quarantined := not_not.mp quarantined
                            provenance := provenance
                            integrity := Bool.eq_true_of_not_eq_false integrity
                            classified := classified_eq_ok answered some
                            fenced := RuntimeStore.fenced_eq_true.mp
                              (Bool.eq_true_of_not_eq_false fenced) }

/-- A release changes a mode only when it has passed every check. -/
theorem release_modes {request : ReleaseRequest} {result : ReleaseResult}
    {w w' : World RuntimeStore} (h : release request w = .ok result w') :
    w'.store.modes = w.store.modes ∨ Released w.store request ∧
      ∀ workspaceId, w'.store.mode workspaceId =
        if request.workspaceId = workspaceId then .normal else w.store.mode workspaceId := by
  have h := atomic_eq_ok.mp h
  have h := lookup_then (reads_getWorkspace _) h
  have h := getStore_then h
  obtain ⟨outcome, reasoned, h⟩ := (reads_releaseReason _ _ _).then h
  obtain ⟨_, v, opened, h⟩ := bind_eq_ok.mp h
  obtain ⟨_, v', audited, h⟩ := bind_eq_ok.mp h
  obtain ⟨rfl, rfl⟩ := pure_eq_ok.mp h
  obtain ⟨-, rfl⟩ := modifyStore_eq_ok.mp audited
  by_cases success : outcome.1 = .validatedWithRestoredIntentsHeld
  · refine .inr ⟨releaseReason_validated reasoned success, fun workspaceId => ?_⟩
    have opens : (releaseResult (w.store.mode request.workspaceId) outcome.1).success = true :=
      decide_eq_true success
    rw [runIf_of opens] at opened
    obtain ⟨-, rfl⟩ := modifyStore_eq_ok.mp opened
    exact w.store.mode_setMode request.workspaceId .normal workspaceId
  · refine .inl ?_
    replace opened := (pure_eq_ok.mp ((congrFun (if_neg (by simpa [releaseResult] using success))
      w).symm.trans opened)).2
    rw [← opened]

/-- A restriction leaves a quarantine in place. -/
theorem restrict_modes {changed : WorkspaceId} {mode : OperationalMode} {principal : PyStr}
    {at' : Instant} {u : Unit} {w w' : World RuntimeStore}
    (h : restrict changed mode principal at' w = .ok u w') {workspaceId : WorkspaceId}
    (quarantined : w.store.mode workspaceId = .restoreQuarantine) :
    w'.store.mode workspaceId = .restoreQuarantine := by
  obtain ⟨-, h⟩ := raiseIf_then h
  have h := atomic_eq_ok.mp h
  have h := lookup_then (reads_getWorkspace _) h
  obtain ⟨kept, h⟩ := raiseIf_then h
  obtain ⟨-, rfl⟩ := modifyStore_eq_ok.mp h
  refine (w.store.mode_setMode changed mode workspaceId).trans ?_
  by_cases here : changed = workspaceId
  · subst here
    rw [quarantined] at kept
    rw [if_pos rfl]
    exact not_not.mp fun other => kept ⟨rfl, other⟩
  · rw [if_neg here]
    exact quarantined

/-! ## Restoring -/

/-- The holds of a list of records. -/
def RuntimeStore.holdAll (s : RuntimeStore) (workspaceId : WorkspaceId) (generation : Nat)
    (records : List GovernedAction) : RuntimeStore :=
  records.foldl (fun now record => now.hold workspaceId record.intent.id generation) s

theorem held_mono {s s' : RuntimeStore} (grown : s.holds <+: s'.holds)
    {workspaceId : WorkspaceId} {intentId : ActionIntentId}
    (held : s.held workspaceId intentId = true) : s'.held workspaceId intentId = true := by
  obtain ⟨row, mem, here⟩ := List.any_eq_true.mp held
  exact List.any_eq_true.mpr ⟨row, grown.subset mem, here⟩

theorem RuntimeStore.held_hold (s : RuntimeStore) (workspaceId : WorkspaceId)
    (intentId : ActionIntentId) (generation : Nat) :
    (s.hold workspaceId intentId generation).held workspaceId intentId = true := by
  unfold RuntimeStore.hold
  split
  · next held => exact held
  · exact List.any_eq_true.mpr ⟨⟨workspaceId, intentId, generation⟩,
      List.mem_append_right _ (List.mem_singleton_self _), by simp⟩

theorem RuntimeStore.hold_eq (s : RuntimeStore) (workspaceId : WorkspaceId)
    (intentId : ActionIntentId) (generation : Nat) :
    ∃ more, s.hold workspaceId intentId generation = { s with holds := s.holds ++ more } ∧
      ∀ row ∈ more, row = ⟨workspaceId, intentId, generation⟩ := by
  unfold RuntimeStore.hold
  split
  · exact ⟨[], by rw [List.append_nil], fun row mem => (by cases mem)⟩
  · exact ⟨_, rfl, fun row mem => List.mem_singleton.mp mem⟩

/-- What a loop of holds adds: at least one hold for every record that it visits, and no
hold for anything else. -/
structure HoldsAll (s : RuntimeStore) (workspaceId : WorkspaceId) (generation : Nat)
    (records : List GovernedAction) (more : List HoldRow) : Prop where
  after : s.holdAll workspaceId generation records = { s with holds := s.holds ++ more }
  held : ∀ record ∈ records,
    { s with holds := s.holds ++ more : RuntimeStore }.held workspaceId record.intent.id = true
  rows : ∀ row ∈ more, ∃ record ∈ records, row = ⟨workspaceId, record.intent.id, generation⟩

theorem RuntimeStore.holdAll_eq (workspaceId : WorkspaceId) (generation : Nat)
    (records : List GovernedAction) (s : RuntimeStore) :
    ∃ more, HoldsAll s workspaceId generation records more := by
  induction records generalizing s with
  | nil =>
      refine ⟨[], ⟨?_, fun record mem => (by cases mem), fun row mem => (by cases mem)⟩⟩
      rw [List.append_nil]
      rfl
  | cons first rest ih =>
      have here := s.held_hold workspaceId first.intent.id generation
      obtain ⟨more, same, only⟩ := s.hold_eq workspaceId first.intent.id generation
      obtain ⟨others, after, all, rows⟩ := ih (s.hold workspaceId first.intent.id generation)
      rw [same] at after all here
      refine ⟨more ++ others, ⟨?_, fun record mem => ?_, fun row mem => ?_⟩⟩
      · rw [← List.append_assoc]
        exact (congrArg (fun t : RuntimeStore => t.holdAll workspaceId generation rest) same).trans
          after
      · rw [← List.append_assoc]
        rcases List.mem_cons.mp mem with rfl | mem
        · exact held_mono (List.prefix_append _ others) here
        · exact all record mem
      · rcases List.mem_append.mp mem with mem | mem
        · exact ⟨first, List.mem_cons_self, only row mem⟩
        · obtain ⟨record, visited, row⟩ := rows row mem
          exact ⟨record, List.mem_cons_of_mem _ visited, row⟩

/-- What a restore leaves: every record of its workspace is held, and it is quarantined. -/
structure Restored (s s' : RuntimeStore) (request : RestoreRequest) : Prop where
  only : s.domain.workspaces.values.map Workspace.id = [request.workspaceId]
  domain : s'.domain = s.domain
  governed : s'.governed = s.governed
  incidents : s'.incidents = s.incidents ++ [newIncident request s]
  held : ∀ record ∈ s.governed.values, record.intent.workspaceId = request.workspaceId →
    s'.held request.workspaceId record.intent.id = true
  rows : ∀ row ∈ s'.holds, row ∈ s.holds ∨ ∃ record ∈ s.governed.values,
    record.intent.workspaceId = row.workspaceId ∧ record.intent.id = row.intentId
  modes : ∀ workspaceId, s'.mode workspaceId =
    if request.workspaceId = workspaceId then .restoreQuarantine else s.mode workspaceId

theorem restore_eq_ok {request : RestoreRequest} {u : Unit} {w w' : World RuntimeStore}
    (h : restore request w = .ok u w') : Restored w.store w'.store request := by
  have h := getStore_then (atomic_eq_ok.mp h)
  obtain ⟨-, h⟩ := raiseIf_then h
  obtain ⟨only, h⟩ := raiseIf_then h
  obtain ⟨_, v, recorded, h⟩ := bind_eq_ok.mp h
  obtain ⟨-, rfl⟩ := modifyStore_eq_ok.mp recorded
  have h := lookup_then (reads_getWorkspace _) h
  obtain ⟨_, v, holding, h⟩ := bind_eq_ok.mp h
  rw [forEach_modifyStore] at holding
  cases holding
  have h := lookup_then (reads_getWorkspace _) h
  obtain ⟨-, rfl⟩ := modifyStore_eq_ok.mp h
  obtain ⟨more, same, all, rows⟩ := RuntimeStore.holdAll_eq request.workspaceId
    (newIncident request w.store).generation
    (w.store.governed.values.filter (·.intent.workspaceId = request.workspaceId))
    { w.store with incidents := w.store.incidents ++ [newIncident request w.store] }
  unfold RuntimeStore.holdAll at same
  dsimp only at same ⊢
  rw [same]
  refine ⟨not_not.mp only, rfl, rfl, rfl, fun record mem here => ?_, fun row mem => ?_,
    fun workspaceId => ?_⟩
  · exact all record (List.mem_filter.mpr ⟨mem, decide_eq_true here⟩)
  · rcases List.mem_append.mp mem with old | new
    · exact .inl old
    · obtain ⟨record, listed, rfl⟩ := rows row new
      obtain ⟨stored, here⟩ := List.mem_filter.mp listed
      exact .inr ⟨record, stored, of_decide_eq_true here, rfl⟩
  · exact RuntimeStore.mode_setMode _ request.workspaceId .restoreQuarantine workspaceId

/-! ## Steps -/

theorem mode_of_modes {s s' : RuntimeStore} (same : s'.modes = s.modes)
    (workspaceId : WorkspaceId) : s'.mode workspaceId = s.mode workspaceId := by
  unfold RuntimeStore.mode
  rw [same]

/-- A step of a call changes no mode. -/
theorem CallEffect.modes_eq {call : Call} {w w' : World RuntimeStore}
    (h : CallEffect platform call w w') : w'.store.modes = w.store.modes := by
  cases h with
  | wrote later moved => exact writes_frame (fun write => write.operational_eq.1) moved
  | dispatched workspaceId runId action expected point later d governed v same facts =>
      exact facts.operational_eq.1

/-- A command that changes the operational tables ends no quarantine, unless it is a
release that has passed every check. -/
theorem operational_command {command : HostCommand} {w : World RuntimeStore}
    {workspaceId : WorkspaceId} (operational : command.operational = true)
    (quarantined : w.store.mode workspaceId = .restoreQuarantine)
    (ended : (World.after (command.txn platform w)).store.mode workspaceId ≠ .restoreQuarantine) :
    ∃ request, command = .release request ∧ request.workspaceId = workspaceId ∧
      Released w.store request := by
  have unchanged : ∀ {w' : World RuntimeStore}, w'.store = w.store →
      w'.store.mode workspaceId = .restoreQuarantine := fun same => same ▸ quarantined
  cases command with
  | restrict restricted mode principal at' =>
      replace ended : (World.after (restrict restricted mode principal at' w)).store.mode
        workspaceId ≠ .restoreQuarantine := ended
      have rollsBack : RollsBack (restrict restricted mode principal at') :=
        .bind_reads (Reads.raiseIf _ _) fun _ => .atomic _
      cases h : restrict restricted mode principal at' w with
      | ok u w' =>
          rw [h] at ended
          exact absurd (restrict_modes h quarantined) ended
      | error e w' =>
          rw [h] at ended
          exact absurd (unchanged (rollsBack.store_eq h)) ended
  | release request =>
      replace ended : (World.after (discard (release request) w)).store.mode
        workspaceId ≠ .restoreQuarantine := ended
      rw [after_discard] at ended
      cases h : release request w with
      | ok result w' =>
          rw [h] at ended
          rcases release_modes h with same | ⟨released, modes⟩
          · exact absurd ((mode_of_modes same workspaceId).trans quarantined) ended
          · refine ⟨request, rfl, ?_, released⟩
            by_contra other
            exact ended ((modes workspaceId).trans ((if_neg other).trans quarantined))
      | error e w' =>
          rw [h] at ended
          exact absurd (unchanged (atomic_eq_error h)) ended
  | _ => cases operational

/-- The only step that ends a quarantine is a release that has passed every check. -/
theorem quarantine_step {s : Sys} {label : Label} {workspaceId : WorkspaceId}
    (quarantined : s.store.mode workspaceId = .restoreQuarantine)
    (ended : (s.step platform label).store.mode workspaceId ≠ .restoreQuarantine) :
    ∃ request, label = .command (.release request) ∧ request.workspaceId = workspaceId ∧
      Released s.store request := by
  have changed : (s.step platform label).store.modes ≠ s.store.modes :=
    fun same => ended ((mode_of_modes same workspaceId).trans quarantined)
  cases label with
  | «open» host request => exact absurd rfl changed
  | advance id input =>
      refine absurd ?_ changed
      refine Sys.advance_cases (fun t => t.store.modes = s.store.modes) platform s id input
        (fun call found => ?_) rfl
      exact (advance_effect platform s.shared _ input).modes_eq
  | drop id => exact absurd rfl changed
  | crash => exact absurd rfl changed
  | command command =>
      cases kind : command.operational with
      | false =>
          have moved := (command_writes platform command kind s.shared.world).2
          exact absurd (writes_frame (fun write => write.operational_eq.1) moved) changed
      | true =>
          obtain ⟨request, rfl, found⟩ := operational_command kind quarantined ended
          exact ⟨request, rfl, found⟩
  | restore request =>
      refine absurd ?_ ended
      show (s.restored request).shared.world.store.mode workspaceId = _
      unfold Sys.restored
      cases h : Runtime.restore request s.shared.world with
      | ok u w =>
          refine ((restore_eq_ok h).modes workspaceId).trans ?_
          rw [show s.shared.world.store.mode workspaceId = _ from quarantined, ite_self]
      | error e w => exact quarantined

/-! ## Records and their workspaces -/

/-- Every governed record belongs to a stored workspace. -/
structure Housed (s : RuntimeStore) : Prop where
  workspace : ∀ {id record}, s.governed.get? id = some record →
    ∃ workspace, s.domain.workspaces.get? record.intent.workspaceId = some workspace

section Housed

variable {s s' : RuntimeStore}

theorem Housed.grow (h : Housed s) (governed : s'.governed = s.governed)
    (extends' : Extends s.domain s'.domain) : Housed s' := by
  constructor
  intro id record stored
  rw [governed] at stored
  obtain ⟨workspace, found⟩ := h.workspace stored
  obtain ⟨later, found, -⟩ := extends'.workspaces.later found
  exact ⟨later, found⟩

/-- A record of a stored workspace is filed. -/
theorem Housed.put (h : Housed s) {record : GovernedAction}
    (housed : ∃ workspace, s.domain.workspaces.get? record.intent.workspaceId = some workspace)
    (governed : s'.governed = s.governed.put record) (domain : s'.domain = s.domain) :
    Housed s' := by
  constructor
  intro id stored present
  rw [governed, Registry.get?_put] at present
  rw [domain]
  split at present
  · rw [← Option.some.inj present]
    exact housed
  · exact h.workspace present

theorem Housed.write (write : Write ordinaryKinds s s') (h : Housed s) : Housed s' := by
  cases write with
  | prepare allowed _ record absent savable =>
      have history := savable.history
      rw [absent] at history
      exact h.put history.1 rfl rfl
  | review allowed _ old record present history kept =>
      have housed := h.workspace present
      rw [← history.1] at housed
      exact h.put housed rfl rfl
  | claim allowed => simp at allowed
  | domain command allowed _ d served =>
      exact h.grow rfl (Write.domain (K := [commandKind command]) command List.mem_cons_self s d
        served).extends
  | _ => exact h.grow rfl (.refl _)

end Housed

theorem Housed.step {s : Sys} (h : Housed s.store) (label : Label) :
    Housed (s.step platform label).store := by
  cases step_effect platform s label with
  | wrote later moved => exact writes_induct Housed.write moved h
  | dispatched later host runId expected d governed v facts =>
      have reviewed : Housed v.store :=
        writes_induct Housed.write (widen (by simp) facts.review) h
      have domain : (s.step platform label).store.domain = v.store.domain :=
        (facts.domain_eq).trans
          (writes_frame (fun write => write.domain_eq (by simp) (by simp)) facts.review).symm
      have recorded := facts.claimed.governed
      have grant := facts.grant
      cases grant with
      | reading risk message same => exact reviewed.grow recorded (domain ▸ .refl _)
      | reviewed record granted =>
          obtain ⟨claimed, fields, after⟩ := recorded
          have intent : claimed.intent = record.intent :=
            (congrArg GovernedFields.intent fields).trans rfl
          have housed := reviewed.workspace granted.prepared.stored
          rw [← intent] at housed
          exact reviewed.put housed after domain
  | operated later change =>
      obtain ⟨⟨o, same⟩, -, -⟩ := change
      have governed := congrArg RuntimeStore.governed same
      have domain := congrArg RuntimeStore.domain same
      exact h.grow governed (domain ▸ .refl _)

theorem Housed.after (platform : Platform) (labels : List Label) :
    Housed (Sys.after platform labels).store :=
  Sys.run_keeps (P := fun s => Housed s.store) (fun _ label h => h.step label)
    ⟨fun present => by cases present⟩ labels

/-! ## Held records -/

/-- A held record is still there, with the intent and the claim that it had. -/
structure StaysHeld (s : RuntimeStore) (id : ActionIntentId) (record : GovernedAction) :
    Prop where
  held : s.held record.intent.workspaceId id = true
  stored : ∃ record', s.governed.get? id = some record' ∧ record'.intent = record.intent ∧
    record'.invocationId = record.invocationId

theorem held_write {s s' : RuntimeStore} {id : ActionIntentId} {old : GovernedAction}
    (write : Write ordinaryKinds s s') (h : ∃ record, s.governed.get? id = some record ∧
      record.intent = old.intent ∧ record.invocationId = old.invocationId) :
    ∃ record, s'.governed.get? id = some record ∧ record.intent = old.intent ∧
      record.invocationId = old.invocationId := by
  obtain ⟨record, stored, intent, claim⟩ := h
  cases write with
  | prepare allowed _ new absent savable =>
      refine ⟨record, (Registry.get?_put_ne s.governed (x := new) fun same => ?_).trans stored,
        intent, claim⟩
      rw [show new.intent.id = id from same, stored] at absent
      cases absent
  | review allowed _ previous new present history kept =>
      by_cases same : new.intent.id = id
      · subst same
        obtain rfl := Option.some.inj (stored.symm.trans present)
        exact ⟨new, Registry.get?_put_self _ _, history.1.trans intent, kept.1.trans claim⟩
      · exact ⟨record, (Registry.get?_put_ne s.governed (x := new) same).trans stored, intent,
          claim⟩
  | claim allowed => simp at allowed
  | _ => exact ⟨record, stored, intent, claim⟩

/-- A claim that dispatches claims no held record. -/
theorem Dispatched.not_held {host : Host} {runId : AgentRunId} {expected : Version}
    {w v w' : World RuntimeStore} {d : Dispatch} {record : GovernedAction}
    (facts : Dispatched platform host runId expected w v w' d (some record))
    (granted : Granted platform host w v d.run d.action d.invocation.toolVersion
      d.invocation.validatedInput record) :
    w.store.held record.intent.workspaceId record.intent.id = false := by
  obtain ⟨n, -, -, allowed⟩ := granted.allowed
  have approval := (GovernedAction.executable_of_allowedAt allowed).approval
  have approved : record.intent.effect ≠ .deny := by
    rcases approval with effect | ⟨effect, -⟩ <;> simp [effect]
  rw [granted.prepared.effect] at approved
  have risk := (ApprovalPolicy.risk_of_evaluate approved).1
  have free := (facts.claimed.dispatchable (by simp [risk])).2 record rfl
  have holds : v.store.holds = w.store.holds :=
    writes_frame (fun write => write.operational_eq.2.1) facts.review
  rw [granted.prepared.workspace]
  unfold RuntimeStore.held at free ⊢
  rwa [← holds]

theorem StaysHeld.step {s : Sys} {id : ActionIntentId} {record : GovernedAction}
    (key : record.intent.id = id) (h : StaysHeld s.store id record) (label : Label) :
    StaysHeld (s.step platform label).store id record := by
  have effect := step_effect platform s label
  refine ⟨held_mono effect.operational_prefix.1 h.held, ?_⟩
  cases effect with
  | wrote later moved => exact writes_induct held_write moved h.stored
  | dispatched later host runId expected d governed v facts =>
      have reviewed := writes_induct held_write (widen (by simp) facts.review) h.stored
      have recorded := facts.claimed.governed
      have grant := facts.grant
      cases grant with
      | reading risk message same =>
          rw [show (s.step platform label).store.governed = v.store.governed from recorded]
          exact reviewed
      | reviewed claimedRecord granted =>
          obtain ⟨claimed, fields, after⟩ := recorded
          obtain ⟨current, stored, intent, claim⟩ := reviewed
          rw [show (s.step platform label).store.governed = _ from after]
          refine ⟨current, (Registry.get?_put_ne _ fun same => ?_).trans stored, intent, claim⟩
          have key' : claimedRecord.intent.id = id :=
            (congrArg (fun f : GovernedFields => f.intent.id) fields).symm.trans same
          have here := granted.prepared.stored
          rw [key', stored] at here
          obtain rfl := Option.some.inj here
          have free := facts.not_held granted
          rw [intent, key] at free
          exact absurd h.held (by simp [free])
  | operated later change =>
      obtain ⟨⟨o, same⟩, -, -⟩ := change
      have governed := congrArg RuntimeStore.governed same
      rw [show (s.step platform label).store.governed = s.store.governed from governed]
      exact h.stored

/-- The database of a restore holds one workspace, so its records all belong to it. -/
theorem Restored.workspace {s s' : RuntimeStore} {request : RestoreRequest}
    (found : Restored s s' request) (housed : Housed s) {id : ActionIntentId}
    {record : GovernedAction} (stored : s.governed.get? id = some record) :
    record.intent.workspaceId = request.workspaceId := by
  obtain ⟨workspace, present⟩ := housed.workspace stored
  have mem := List.mem_map_of_mem (f := Workspace.id) (Registry.mem_values_of_get? present)
  rw [found.only] at mem
  exact (Registry.key_of_get? present).symm.trans (List.mem_singleton.mp mem)

/-- The system after a restore that succeeds. -/
theorem Sys.restored_store {s : Sys} {request : RestoreRequest} {w : World RuntimeStore}
    (restored : Runtime.restore request s.shared.world = .ok () w) :
    (s.step platform (.restore request)).store = w.store := by
  show (s.restored request).store = w.store
  unfold Sys.restored
  rw [restored]

/-- A restore holds every governed record of the database, whatever happens next. -/
theorem restored_holds (platform : Platform) (labels : List Label) (request : RestoreRequest)
    {w : World RuntimeStore} {id : ActionIntentId} {record : GovernedAction}
    (restored : Runtime.restore request (Sys.after platform labels).shared.world = .ok () w)
    (stored : (Sys.after platform labels).store.governed.get? id = some record)
    (later : List Label) :
    StaysHeld (Sys.after platform (labels ++ .restore request :: later)).store id record := by
  have found := restore_eq_ok restored
  have key : GovernedAction.key record = id := Registry.key_of_get? stored
  replace key : record.intent.id = id := key
  have here := found.workspace (Housed.after platform labels) stored
  have first : StaysHeld ((Sys.after platform labels).step platform (.restore request)).store
      id record := by
    rw [Sys.restored_store restored]
    refine ⟨?_, record, ?_, rfl, rfl⟩
    · rw [here, ← key]
      exact found.held record (Registry.mem_values_of_get? stored) here
    · rw [found.governed]
      exact stored
  rw [Sys.after, Sys.run_append]
  exact Sys.run_keeps (P := fun s => StaysHeld s.store id record)
    (fun _ label h => h.step key label) first later

/-! ## Fencing -/

/-- A consequential call that a step claims finds its workspace open. -/
theorem claimed_open {labels : List Label} {label : Label} {f : InvocationFields}
    (now : f ∈ (Sys.after platform (labels ++ [label])).store.claims)
    (notYet : f ∉ (Sys.after platform labels).store.claims)
    (risk : f.toolVersion.definition.risk ≠ .readOnly) :
    (Sys.after platform labels).store.mode f.workspaceId = .normal := by
  rw [Sys.after_concat] at now
  cases claims_effect platform (Sys.after platform labels) label with
  | kept same =>
      rw [same] at now
      exact absurd now notYet
  | added host runId expected d governed v facts =>
      rw [show ((Sys.after platform labels).step platform label).store.claims = _ from
        facts.claims_grown] at now
      rcases List.mem_append.mp now with present | here
      · exact absurd present notYet
      · obtain rfl := List.mem_singleton.mp here
        have workspace : d.invocation.claimFields.workspaceId = d.run.workspaceId :=
          facts.claimed.binding.2.2
        have reviewed : v.store.modes = (Sys.after platform labels).store.modes :=
          writes_frame (fun write => write.operational_eq.1) facts.review
        rw [workspace, ← mode_of_modes reviewed]
        exact (facts.claimed.dispatchable risk).1

/-- In every run: a consequential call is claimed only while its workspace is open; a
record of a restored snapshot stays held and unclaimed for ever; a quarantine ends only
with a release that has passed every check; and every consequential call belongs to the
record that it claimed. -/
theorem quarantine_fencing (platform : Platform) :
    (∀ labels label f, f ∈ (Sys.after platform (labels ++ [label])).store.claims →
      f ∉ (Sys.after platform labels).store.claims →
      f.toolVersion.definition.risk ≠ .readOnly →
      (Sys.after platform labels).store.mode f.workspaceId = .normal) ∧
    (∀ labels request w id record,
      Runtime.restore request (Sys.after platform labels).shared.world = .ok () w →
      (Sys.after platform labels).store.governed.get? id = some record →
      ∀ later, StaysHeld (Sys.after platform (labels ++ .restore request :: later)).store
        id record) ∧
    (∀ labels label workspaceId,
      (Sys.after platform labels).store.mode workspaceId = .restoreQuarantine →
      (Sys.after platform (labels ++ [label])).store.mode workspaceId ≠ .restoreQuarantine →
      ∃ request, label = .command (.release request) ∧ request.workspaceId = workspaceId ∧
        Released (Sys.after platform labels).store request) ∧
    (∀ labels, ∀ f ∈ (Sys.after platform labels).store.claims,
      f.toolVersion.definition.risk ≠ .readOnly →
      ∃ record ∈ (Sys.after platform labels).store.governed.values,
        ClaimedBy platform record f) := by
  refine ⟨fun labels label f => claimed_open, fun labels request w id record restored stored =>
    restored_holds platform labels request restored stored,
    fun labels label workspaceId quarantined ended => ?_, fun labels f mem risk => ?_⟩
  · rw [Sys.after_concat] at ended
    exact quarantine_step quarantined ended
  · exact (Claims.after platform labels).invocations f mem (.inl risk)

end AgentCompanyOS.Runtime
