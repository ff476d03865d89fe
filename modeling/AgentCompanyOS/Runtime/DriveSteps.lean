import AgentCompanyOS.Runtime.Calls
import AgentCompanyOS.Runtime.RunSteps

/-!
# The transactions of a drive

What a step of a call in a drive finds. All transactions after the entry compare the version
of the run with the one that the call carries, except two: the claim of an iteration and the
failure transaction take the run as they find it. A call carries the version that it has
carried before, or the one that its step has written.
-/

set_option autoImplicit false

namespace AgentCompanyOS.Runtime

open Foundation Foundation.Txn Domain

/-! ## Calls in a drive -/

/-- The run of the drive that a call waits in. -/
def loopRun? : List Frame → Option AgentRunId
  | .loop loop :: _ => some loop.runId
  | _ => none

/-- The run of the drive that a call is in; nothing outside of one. -/
def Call.drives? (call : Call) : Option AgentRunId :=
  match call.point with
  | .driveEntry _ runId _ => some runId
  | .claim loop => some loop.runId
  | .model loop _ => some loop.runId
  | .failing _ runId _ _ => some runId
  | .invoke .. => loopRun? call.frames
  | .entering _ => loopRun? call.frames
  | .executing _ => loopRun? call.frames
  | .replied .. => loopRun? call.frames
  | .again .. => loopRun? call.frames
  | _ => none

/-- The checks of the claim of an iteration. -/
def claimChecks (platform : Platform) (host : Host) (workspaceId : WorkspaceId)
    (runId : AgentRunId) : RuntimeTxn Unit := do
  let run ← getRun workspaceId runId
  let _ ← runParents run false
  beforeDeadline platform.toEnv run
  checkConfiguration host run

/-! ## What a step of a drive finds -/

/-- The run and the version that the next transaction of a call compares the stored run with. -/
def Point.compares? : Point → Option (AgentRunId × Version)
  | .model loop iteration => some (loop.runId, iteration.claimed.version)
  | .invoke _ runId _ expected => some (runId, expected)
  | .entering d => some (d.invocation.runId, d.invocation.runVersion)
  | .executing d => some (d.invocation.runId, d.invocation.runVersion)
  | .replied d _ => some (d.invocation.runId, d.invocation.runVersion)
  | .again d _ => some (d.invocation.runId, d.invocation.runVersion)
  | _ => none

/-- A step of a drive leaves runs and parents alone, or it is one of the two that compare
nothing, or it has found the version that it compares with. -/
inductive DriveStep (platform : Platform) (s : RuntimeStore) (call : Call) (w : World RuntimeStore)
    (input : Input) (s' : RuntimeStore) : Prop
  | same (runs : s'.runs = s.runs) (domain : s'.domain = s.domain)
  | claimed (loop : Loop) (answers : PortAnswers) (point : call.point = .claim loop)
      (now : input = .ports answers)
      (passes : (World.answer (claimChecks platform call.host loop.workspaceId loop.runId
        w)).isOk = true)
  | failed (workspaceId : WorkspaceId) (runId : AgentRunId) (code : FailureCode)
      (cancelled : Bool) (point : call.point = .failing workspaceId runId code cancelled)
      (now : input = .next) (run : AgentRun) (found : s.runs.get? runId = some run)
      (active : run.status.terminal = false)
  | compared (id : AgentRunId) (run : AgentRun) (found : s.runs.get? id = some run)
      (compares : call.point.compares? = some (id, run.version))

section Finding

variable {platform : Platform} {host : Host} {workspaceId : WorkspaceId} {runId : AgentRunId}
  {w w' : World RuntimeStore}

theorem driveClaim_checks {ports : PortAnswers} {iteration : ClaimedIteration}
    (h : driveClaim platform host ports workspaceId runId w = .ok iteration w') :
    (World.answer (claimChecks platform host workspaceId runId w)).isOk = true := by
  have h := atomic_eq_ok.mp h
  obtain ⟨run, w₁, reading, h⟩ := bind_eq_ok.mp h
  obtain ⟨snapshot, w₂, active, h⟩ := bind_eq_ok.mp h
  obtain ⟨_, w₃, timely, h⟩ := bind_eq_ok.mp h
  obtain ⟨_, w₄, configured, -⟩ := bind_eq_ok.mp h
  have passed : claimChecks platform host workspaceId runId w = .ok () w₄ :=
    bind_eq_ok.mpr ⟨run, w₁, reading, bind_eq_ok.mpr ⟨snapshot, w₂, active,
      bind_eq_ok.mpr ⟨(), w₃, timely, configured⟩⟩⟩
  rw [passed]
  rfl

theorem driveToolAction_version {ports : PortAnswers} {iteration : ClaimedIteration}
    {decision : ModelDecision} {answer : Action × Version}
    (h : driveToolAction platform.toEnv host ports workspaceId runId iteration decision w =
      .ok answer w') : answer.2 = iteration.claimed.version := by
  have h := atomic_eq_ok.mp h
  obtain ⟨current, w₁, -, version, -, h⟩ := currentIteration_then h
  obtain ⟨parents, -, h⟩ := (reads_runParents current false).then h
  obtain ⟨-, h⟩ := raiseIf_then h
  obtain ⟨_, -, h⟩ := (reads_authorizeDecision current decision).then h
  obtain ⟨-, h⟩ := raiseIf_then h
  obtain ⟨id, w₂, -, h⟩ := bind_eq_ok.mp h
  obtain ⟨_, w₃, -, h⟩ := bind_eq_ok.mp h
  obtain ⟨_, w₄, -, h⟩ := bind_eq_ok.mp h
  obtain ⟨_, w₅, -, h⟩ := bind_eq_ok.mp h
  obtain ⟨rfl, -⟩ := pure_eq_ok.mp h
  exact version

theorem driveAction_version {ports : PortAnswers} {iteration : ClaimedIteration}
    {decision : ModelDecision} {updated : AgentRun}
    (h : driveAction platform host ports workspaceId runId iteration decision w =
      .ok updated w') :
    ∃ run, w.store.runs.get? runId = some run ∧ run.version = iteration.claimed.version := by
  have h := atomic_eq_ok.mp h
  obtain ⟨current, w₁, found, version, -⟩ := currentIteration_then h
  exact ⟨current, found, version⟩

theorem failure_found {env : Env} {code : PyStr} {cancelled : Bool} {updated : AgentRun}
    (h : failure env workspaceId runId code cancelled w = .ok updated w') :
    w' = w ∨ ∃ run, w.store.runs.get? runId = some run ∧ run.status.terminal = false := by
  have h := atomic_eq_ok.mp h
  obtain ⟨run, found, -, h⟩ := getRun_then h
  split at h
  · obtain ⟨-, rfl⟩ := pure_eq_ok.mp h
    exact .inl rfl
  · next active => exact .inr ⟨run, found, Bool.eq_false_iff.mpr active⟩

theorem failingTxn_found {env : Env} {code : FailureCode} {cancelled : Bool} {updated : AgentRun}
    (h : failingTxn env workspaceId runId code cancelled w = .ok updated w') :
    w'.store = w.store ∨
      ∃ run, w.store.runs.get? runId = some run ∧ run.status.terminal = false := by
  cases code with
  | text code =>
      rcases failure_found h with rfl | active
      · exact .inl rfl
      · exact .inr active
  | timedOut deadline =>
      obtain ⟨at', w₁, -, s₁, h⟩ := Idle.then (moves_now env) h
      rw [← s₁]
      rcases failure_found h with rfl | active
      · exact .inl rfl
      · exact .inr active

theorem invokeClaim_version {action : Action} {expected : Version} {result : ClaimResult}
    (h : invokeClaim platform host workspaceId runId action expected w = .ok result w') :
    w' = w ∨ ∃ run, w.store.runs.get? runId = some run ∧ run.version = expected := by
  rcases invokeClaim_fresh h with same | ⟨run, toolId, raw, invocations, found, fresh⟩
  · exact .inl same
  · obtain ⟨version, -⟩ := raiseIf_then fresh
    exact .inr ⟨run, found, not_not.mp version⟩

/-- A reply that is not stale has found the version of its claim. -/
theorem judgeReply_version {env : Env} {run : AgentRun} {invocation : ToolInvocation}
    {error error' : Option ToolError}
    (h : judgeReply env host run invocation error w = .ok (error', false) w') :
    run.version = invocation.runVersion := by
  unfold judgeReply at h
  split at h
  · obtain ⟨impossible, -⟩ := pure_eq_ok.mp h
    cases impossible
  · obtain ⟨stale, w₁, checking, h⟩ := bind_eq_ok.mp h
    cases stale with
    | true =>
        obtain ⟨impossible, -⟩ := pure_eq_ok.mp h
        cases impossible
    | false =>
        by_contra moved
        rcases catching_eq_ok.mp checking with returned | ⟨e, w₂, -, handled⟩
        · obtain ⟨parents, w₃, compared, returned⟩ := bind_eq_ok.mp returned
          unfold parentsMoved at compared
          rw [if_pos moved] at compared
          obtain ⟨rfl, -⟩ := pure_eq_ok.mp compared
          obtain ⟨current, w₄, -, returned⟩ := bind_eq_ok.mp returned
          obtain ⟨impossible, -⟩ := pure_eq_ok.mp returned
          cases impossible
        · cases e with
          | model _ => cases (pure_eq_ok.mp handled).1
          | tool _ => cases (pure_eq_ok.mp handled).1
          | _ => exact (raise_eq_ok.mp handled).elim

theorem reconcileReply_version {invocation : ToolInvocation} {action : Action}
    {output : Option ToolOutput} {error : Option ToolError} {inputBytes outputBytes : Nat}
    {updated : AgentRun}
    (h : reconcileReply platform host invocation action output error inputBytes outputBytes w =
      .ok updated w') :
    w'.store.runs = w.store.runs ∧ w'.store.domain = w.store.domain ∨
      ∃ run, w.store.runs.get? invocation.runId = some run ∧
        run.version = invocation.runVersion := by
  have moved := ((moves_reconcileReply (K := [.receipt, .review, .run, .audit]) platform host
    invocation action output error inputBytes outputBytes).of_ok h).2
  have domain := domain_frame moved (by simp) (by simp)
  have h := atomic_eq_ok.mp h
  obtain ⟨run, found, -, h⟩ := getRun_then h
  obtain ⟨⟨error', stale⟩, w₁, judged, s₁, h⟩ :=
    (idle_judgeReply platform.toEnv host run invocation error).then h
  cases stale with
  | false => exact .inr ⟨run, found, judgeReply_version judged⟩
  | true =>
      obtain ⟨receipt, w₂, recorded, h⟩ := bind_eq_ok.mp h
      obtain ⟨-, rfl⟩ := pure_eq_ok.mp h
      refine .inl ⟨?_, domain⟩
      rw [← s₁]
      exact runs_frame ((moves_storeReceipt (K := [.receipt, .review, .audit]) platform host run
        invocation output error' inputBytes outputBytes).of_ok recorded).2 (by simp) (by simp)

end Finding

section Driving

variable {platform : Platform} {shared : Shared} {call : Call} {input : Input}

theorem DriveStep.of_commit {α : Type} {m : RuntimeTxn α} (rolls : RollsBack m)
    (returned : ∀ {a w'}, m shared.world = .ok a w' →
      DriveStep platform shared.world.store call shared.world input w'.store) :
    DriveStep platform shared.world.store call shared.world input
      (World.after (m shared.world)).store := by
  cases h : m shared.world with
  | ok a w' => exact returned h
  | error e w' =>
      have same := rolls.store_eq h
      exact .same (congrArg RuntimeStore.runs same) (congrArg RuntimeStore.domain same)

theorem decide_drive {loop : Loop} {iteration : ClaimedIteration}
    (point : call.point = .model loop iteration) (reply : Except Exc PyStr)
    (answers : PortAnswers) :
    DriveStep platform shared.world.store call shared.world input
      (shared.decide platform call.host loop iteration call.frames reply
        answers).shared.world.store := by
  unfold Shared.decide
  split
  · exact .same rfl rfl
  · split
    · exact .same rfl rfl
    · next decision parsed =>
      split
      · -- The transaction of a tool call writes the action and its events only.
        have moved := (moves_driveToolAction (K := [.action, .audit]) platform.toEnv call.host
          answers loop.workspaceId loop.runId iteration decision shared.world).2
        exact .same (runs_frame moved (by simp) (by simp)) (domain_frame moved (by simp) (by simp))
      · refine .of_commit (RollsBack.atomic _) fun h => ?_
        obtain ⟨run, found, version⟩ := driveAction_version h
        refine .compared loop.runId run found ?_
        rw [point, version]
        rfl

theorem reconcile_drive {d : Dispatch} {output : Option ToolOutput} {error : Option ToolError}
    {outputBytes : Nat}
    (compares : call.point.compares? = some (d.invocation.runId, d.invocation.runVersion)) :
    DriveStep platform shared.world.store call shared.world input
      (World.after (reconcileReply platform call.host d.invocation d.action output error
        d.inputBytes outputBytes shared.world)).store := by
  refine .of_commit (RollsBack.atomic _) fun h => ?_
  rcases reconcileReply_version h with ⟨runs, domain⟩ | ⟨run, found, version⟩
  · exact .same runs domain
  · refine .compared _ run found ?_
    rw [version]
    exact compares

/-- What a step of a call in a drive finds and does. -/
theorem advance_drive (platform : Platform) (shared : Shared) {call : Call} (input : Input)
    {runId : AgentRunId} (drives : call.drives? = some runId) :
    DriveStep platform shared.world.store call shared.world input
      (shared.advance platform call input).shared.world.store := by
  have stay : DriveStep platform shared.world.store call shared.world input
      shared.world.store := .same rfl rfl
  obtain ⟨id, host, point, frames⟩ := call
  cases point with
  | driveEntry workspaceId runId expected =>
      cases input with
      | next =>
          have idle := (idle_driveEntry workspaceId runId expected shared.world).2
          exact .same (congrArg RuntimeStore.runs idle) (congrArg RuntimeStore.domain idle)
      | _ => exact stay
  | claim loop =>
      cases input with
      | ports answers =>
          exact .of_commit (RollsBack.atomic _) fun h =>
            .claimed loop answers rfl rfl (driveClaim_checks h)
      | _ => exact stay
  | model loop iteration =>
      cases input with
      | model reply answers => exact decide_drive rfl reply answers
      | _ => exact stay
  | failing workspaceId runId code cancelled =>
      cases input with
      | next =>
          refine .of_commit (rollsBack_failingTxn _ _ _ _ _) fun h => ?_
          rcases failingTxn_found h with same | ⟨run, found, active⟩
          · exact .same (congrArg RuntimeStore.runs same) (congrArg RuntimeStore.domain same)
          · exact .failed workspaceId runId code cancelled rfl rfl run found active
      | _ => exact stay
  | invoke workspaceId runId action expected =>
      cases input with
      | next =>
          refine .of_commit (RollsBack.atomic _) fun h => ?_
          rcases invokeClaim_version h with rfl | ⟨run, found, version⟩
          · exact stay
          · refine .compared runId run found ?_
            rw [version]
            rfl
      | _ => exact stay
  | entering d =>
      cases input with
      | next => exact stay
      | _ => exact stay
  | executing d =>
      show DriveStep _ _ _ _ _ (shared.execute platform d frames input).shared.world.store
      rw [execute_world]
      exact stay
  | replied d reply =>
      cases input with
      | next => exact reconcile_drive rfl
      | _ => exact stay
  | again d error =>
      cases input with
      | next => exact reconcile_drive rfl
      | _ => exact stay
  | _ => cases drives

/-! ## Where the compared version comes from -/

/-- The version that a call compares with after a step is the one from before it, and no run has
changed, or it is the one that the step has written. -/
inductive CompareStep (s : RuntimeStore) (call : Call) (s' : RuntimeStore) (runId id : AgentRunId)
    (version : Version) : Prop
  | kept (compares : call.point.compares? = some (id, version)) (runs : s'.runs = s.runs)
  | written (own : runId = id ∨ ∃ v, call.point.compares? = some (id, v))
      (previous updated : AgentRun) (found : s.runs.get? id = some previous)
      (stored : s'.runs = s.runs.put updated) (same : updated.id = id)
      (writes : updated.version = version) (moved : updated.version = previous.version.next)

/-- After a step that leaves a call in a drive, its compared version comes from one of the
two. -/
def ComparesFrom (shared : Shared) (call : Call) (a : Advance) : Prop :=
  ∀ next runId id version, a.next = some next → (call.moved next).drives? = some runId →
    next.1.compares? = some (id, version) →
    call.drives? = some runId ∧
      CompareStep shared.world.store call a.shared.world.store runId id version

theorem resumeFrames_compares {frames : List Frame} {result : Except Exc AgentRun}
    {next : Point × List Frame} (h : resumeFrames frames result = some next) :
    next.1.compares? = none :=
  resumeFrames_leads (P := fun p => p.compares? = none) (fun _ => rfl) (fun _ _ _ _ => rfl)
    (fun _ _ _ _ _ => rfl) (fun _ _ _ => rfl) h

theorem Loop.handle_compares (loop : Loop) (e : Exc) : (loop.handle e).compares? = none :=
  Loop.handle_leads (P := fun p => p.compares? = none) (fun _ _ _ _ => rfl) loop e

theorem Loop.advance_compares (loop : Loop) : loop.advance.compares? = none :=
  Loop.advance_leads (P := fun p => p.compares? = none) (fun _ => rfl) (fun _ _ _ _ => rfl) loop

theorem recoveryNext_compares {workspaceId : WorkspaceId} {runId : AgentRunId}
    {invocationId : ToolInvocationId} {connector : Connector} {frames : List Frame}
    {result : Except Exc RecoveryStep} {next : Point × List Frame}
    (h : recoveryNext workspaceId runId invocationId connector frames result = some next) :
    next.1.compares? = none := by
  unfold recoveryNext at h
  split at h
  · cases h
    rfl
  · cases h
    rfl
  · cases h
  · cases h

/-- A step to a point that compares nothing. -/
theorem ComparesFrom.silent {a : Advance}
    (silent : ∀ next, a.next = some next → next.1.compares? = none) :
    ComparesFrom shared call a := by
  intro next runId id version leads drives compares
  rw [silent next leads] at compares
  cases compares

theorem ComparesFrom.commit {α : Type} {m : RuntimeTxn α}
    {resume : Except Exc α → Option (Point × List Frame)}
    (silent : ∀ result next, resume result = some next → next.1.compares? = none) :
    ComparesFrom shared call (shared.commit m resume) :=
  .silent fun next leads => silent _ next leads

theorem ComparesFrom.stay : ComparesFrom shared call (shared.stay call.point call.frames) := by
  rintro next runId id version ⟨⟩ drives compares
  exact ⟨drives, .kept compares rfl⟩

/-- A step within a dispatch. -/
theorem ComparesFrom.within {d : Dispatch} {point : Point} {a : Advance}
    (before : call.point.dispatch? = some d) (after : point.dispatch? = some d)
    (leads : a.next = some (point, call.frames))
    (runs : a.shared.world.store.runs = shared.world.store.runs) :
    ComparesFrom shared call a := by
  intro next runId id version leads' drives compares
  obtain rfl := Option.some.inj (leads.symm.trans leads')
  obtain ⟨callId, host, here, frames⟩ := call
  have there : ∀ {p : Point}, p.dispatch? = some d →
      p.compares? = some (d.invocation.runId, d.invocation.runVersion) ∧
        (⟨callId, host, p, frames⟩ : Call).drives? = loopRun? frames := by
    intro p dispatch
    cases p with
    | entering _ | executing _ | replied _ _ | again _ _ =>
        obtain rfl := Option.some.inj dispatch
        exact ⟨rfl, rfl⟩
    | _ => cases dispatch
  obtain ⟨here, drivesHere⟩ := there before
  obtain ⟨same, drivesThere⟩ := there after
  refine ⟨drivesHere.trans (drivesThere.symm.trans drives), .kept ?_ runs⟩
  exact here.trans (same.symm.trans compares)

theorem decide_compares {loop : Loop} {iteration : ClaimedIteration}
    (point : call.point = .model loop iteration) (reply : Except Exc PyStr)
    (answers : PortAnswers) :
    ComparesFrom shared call
      (shared.decide platform call.host loop iteration call.frames reply answers) := by
  have handled : ∀ e, ComparesFrom shared call
      { shared := shared, next := some (loop.handle e, call.frames) } := by
    intro e
    refine .silent ?_
    rintro next ⟨⟩
    exact loop.handle_compares e
  unfold Shared.decide
  split
  · exact handled _
  · split
    · exact handled _
    · next decision parsed =>
      split
      · -- The next transaction of the call compares with the version of the claim again.
        intro next runId id version leads drives compares
        have runs := runs_frame (moves_driveToolAction (K := [.action, .audit]) platform.toEnv
          call.host answers loop.workspaceId loop.runId iteration decision shared.world).2
          (by simp) (by simp)
        simp only [Shared.commit] at leads runs ⊢
        cases h : driveToolAction platform.toEnv call.host answers loop.workspaceId loop.runId
            iteration decision shared.world with
        | ok answer w =>
            rw [h] at leads runs
            have written := driveToolAction_version h
            obtain ⟨action, expected⟩ := answer
            cases leads
            cases drives
            cases compares
            refine ⟨?_, .kept ?_ runs⟩
            · unfold Call.drives?
              rw [point]
            · rw [point]
              show some (loop.runId, iteration.claimed.version) = _
              rw [← written]
        | error e w =>
            rw [h] at leads
            cases leads
            rw [loop.handle_compares e] at compares
            cases compares
      · refine .commit ?_
        intro result next leads
        cases result with
        | ok run => exact resumeFrames_compares leads
        | error e =>
            cases leads
            exact loop.handle_compares e

/-- A claimed iteration waits for the model with the version that the claim has written. -/
theorem claim_compares {loop : Loop} (point : call.point = .claim loop) (answers : PortAnswers) :
    ComparesFrom shared call (shared.commit
      (driveClaim platform call.host answers loop.workspaceId loop.runId)
      (afterClaim loop call.frames)) := by
  intro next runId id version leads drives compares
  simp only [Shared.commit] at leads ⊢
  cases h : driveClaim platform call.host answers loop.workspaceId loop.runId shared.world with
  | ok iteration w =>
      rw [h] at leads
      obtain ⟨previous, at', found, -, evolved, stored⟩ := driveClaim_runs h
      cases leads
      cases drives
      cases compares
      have key : AgentRun.key previous = loop.runId := Registry.key_of_get? found
      refine ⟨?_, .written (.inl rfl) previous iteration.claimed found stored
        (evolved.id.trans key) rfl evolved.version⟩
      unfold Call.drives?
      rw [point]
  | error e w =>
      rw [h] at leads
      cases leads
      rw [loop.handle_compares e] at compares
      cases compares

/-- A dispatched call is entered with the version that its claim has written. -/
theorem invoke_compares {workspaceId : WorkspaceId} {runId' : AgentRunId} {action : Action}
    {expected : Version} (point : call.point = .invoke workspaceId runId' action expected) :
    ComparesFrom shared call (shared.commit
      (invokeClaim platform call.host workspaceId runId' action expected)
      (afterInvoke call.frames)) := by
  intro next runId id version leads drives compares
  simp only [Shared.commit] at leads ⊢
  cases h : invokeClaim platform call.host workspaceId runId' action expected shared.world with
  | ok result w =>
      rw [h] at leads
      cases result with
      | returned run =>
          rw [resumeFrames_compares leads] at compares
          cases compares
      | dispatched d =>
          cases invokeClaim_eq_ok h with
          | dispatched d governed v same facts =>
              cases leads
              cases compares
              obtain ⟨at', claimed, evolved, written, stored⟩ := facts.claimed.run
              have runs := runs_frame facts.review (by simp) (by simp)
              have bound : d.invocation.runId = d.run.id := facts.claimed.binding.2.1
              have key : AgentRun.key d.run = runId' := Registry.key_of_get? facts.run
              have own : runId' = d.invocation.runId := key.symm.trans bound.symm
              refine ⟨?_, .written (.inr ⟨expected, ?_⟩) d.run claimed ?_ ?_ ?_ written.symm
                evolved.version⟩
              · unfold Call.drives?
                rw [point]
                exact drives
              · rw [point, ← own]
                rfl
              · rw [← own]
                exact facts.run
              · rw [← runs]
                exact stored
              · exact evolved.id.trans bound.symm
  | error e w =>
      rw [h] at leads
      rw [resumeFrames_compares leads] at compares
      cases compares

theorem reply_compares {d : Dispatch} {reply : Except Exc PyStr}
    (point : call.point = .replied d reply) {output : Option ToolOutput}
    {error : Option ToolError} {outputBytes : Nat} :
    ComparesFrom shared call (shared.commit (reconcileReply platform call.host d.invocation
      d.action output error d.inputBytes outputBytes) (afterReply d reply call.frames)) := by
  cases h : reconcileReply platform call.host d.invocation d.action output error d.inputBytes
      outputBytes shared.world with
  | ok run w =>
      refine .silent ?_
      intro next leads
      simp only [Shared.commit, h] at leads
      exact resumeFrames_compares leads
  | error e w =>
      have here : call.point.dispatch? = some d := by
        rw [point]
        rfl
      have there : (Point.again d e).dispatch? = some d := rfl
      refine .within here there ?_ ?_
      · simp only [Shared.commit, h]
        rfl
      · simp only [Shared.commit, h]
        exact congrArg RuntimeStore.runs (atomic_eq_error h)

theorem advance_compares (input : Input) :
    ComparesFrom shared call (shared.advance platform call input) := by
  obtain ⟨id, host, point, frames⟩ := call
  cases point with
  | driveEntry workspaceId runId expected =>
      cases input with
      | next =>
          refine .commit ?_
          intro result next leads
          cases result with
          | ok run =>
              cases leads
              exact Loop.advance_compares _
          | error e => exact resumeFrames_compares leads
      | _ => exact .stay
  | claim loop =>
      cases input with
      | ports answers => exact claim_compares rfl answers
      | _ => exact .stay
  | model loop iteration =>
      cases input with
      | model reply answers => exact decide_compares rfl reply answers
      | _ => exact .stay
  | failing workspaceId runId code cancelled =>
      cases input with
      | next => exact .silent fun next leads => resumeFrames_compares leads
      | _ => exact .stay
  | invoke workspaceId runId action expected =>
      cases input with
      | next => exact invoke_compares rfl
      | _ => exact .stay
  | entering d =>
      cases input with
      | next => exact .within (d := d) rfl rfl rfl rfl
      | interrupt e => exact .within (d := d) rfl rfl rfl rfl
      | _ => exact .stay
  | executing d =>
      obtain ⟨point, leads, there⟩ : ∃ point,
          (shared.execute platform d frames input).next = some (point, frames) ∧
            point.dispatch? = some d := by
        unfold Shared.execute
        split <;> exact ⟨_, rfl, rfl⟩
      refine .within (d := d) rfl there leads ?_
      show (shared.execute platform d frames input).shared.world.store.runs = _
      rw [execute_world]
  | replied d reply =>
      cases input with
      | next => exact reply_compares rfl
      | interrupt e => exact .within (d := d) rfl rfl rfl rfl
      | _ => exact .stay
  | again d error =>
      cases input with
      | next =>
          refine .commit ?_
          intro result next leads
          cases result with
          | ok run => exact resumeFrames_compares leads
          | error e => exact resumeFrames_compares leads
      | _ => exact .stay
  | resumeExpire workspaceId runId intentId expected =>
      cases input with
      | next =>
          show ComparesFrom shared _ (ite _ _ _)
          split
          · exact .silent fun next leads => resumeFrames_compares leads
          · refine .commit ?_
            intro result next leads
            cases result with
            | ok record =>
                cases leads
                rfl
            | error e => exact resumeFrames_compares leads
      | _ => exact .stay
  | resumeOpen workspaceId runId intentId expected =>
      cases input with
      | next =>
          intro next runId' id' version leads drives compares
          simp only [Shared.advance, Shared.commit] at leads
          generalize World.answer (resumeOpen platform host workspaceId runId intentId expected
            shared.world) = result at leads
          unfold afterResume at leads
          split at leads
          · -- The invocation of an approved intent belongs to no drive.
            cases leads
            cases drives
          · rw [resumeFrames_compares leads] at compares
            cases compares
          · rw [resumeFrames_compares leads] at compares
            cases compares
      | _ => exact .stay
  | restoreWait workspaceId runId intentId resumed error =>
      cases input with
      | next =>
          refine .commit ?_
          intro result next leads
          cases result with
          | ok u => exact resumeFrames_compares leads
          | error e => exact resumeFrames_compares leads
      | _ => exact .stay
  | recoverOpen workspaceId runId invocationId connector =>
      cases input with
      | next => exact .silent fun next leads => recoveryNext_compares leads
      | _ => exact .stay
  | lookUp workspaceId runId invocationId invocation connector =>
      cases input with
      | next =>
          show ComparesFrom shared _
            (shared.lookUp platform _ workspaceId runId invocationId invocation connector)
          unfold Shared.lookUp
          split
          · refine .silent ?_
            rintro next ⟨⟩
            rfl
          · refine .silent ?_
            rintro next ⟨⟩
      | _ => exact .stay
  | recoverApply workspaceId runId invocationId invocation lookup =>
      cases input with
      | next => exact .silent fun next leads => recoveryNext_compares leads
      | _ => exact .stay
  | repair receipt =>
      cases input with
      | next =>
          refine .silent ?_
          rintro next ⟨⟩
      | _ => exact .stay

end Driving

end AgentCompanyOS.Runtime
