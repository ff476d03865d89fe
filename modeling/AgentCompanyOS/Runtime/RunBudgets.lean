import AgentCompanyOS.Runtime.RunSteps
import AgentCompanyOS.Runtime.WriteSafety

/-!
# The budgets of a run

Every model call of a run is preceded by a committed claim, which counts an iteration. The
claims of a run, read off a whole history, are therefore numbered from one, and the limit
that the constructor of a run checks bounds them. Tool calls are counted against the
stored invocations in the transaction that claims them.
-/

set_option autoImplicit false

namespace AgentCompanyOS.Runtime

open Foundation Foundation.Txn Domain

/-! ## Histories -/

section History

variable {α : Type} (platform : Platform)

/-- What can be read off the steps of a run of the system, in their order. -/
def Sys.history (read : Sys → Label → Option α) : Sys → List Label → List α
  | _, [] => []
  | s, label :: rest => (read s label).toList ++ Sys.history read (s.step platform label) rest

theorem Sys.history_append (read : Sys → Label → Option α) (s : Sys) (before after : List Label) :
    Sys.history platform read s (before ++ after) =
      Sys.history platform read s before ++
        Sys.history platform read (Sys.run platform s before) after := by
  induction before generalizing s with
  | nil => rfl
  | cons label rest ih =>
      show (read s label).toList ++
        Sys.history platform read (s.step platform label) (rest ++ after) = _
      rw [ih]
      exact (List.append_assoc _ _ _).symm

theorem Sys.history_concat (read : Sys → Label → Option α) (labels : List Label) (label : Label) :
    Sys.history platform read .empty (labels ++ [label]) =
      Sys.history platform read .empty labels ++
        (read (Sys.after platform labels) label).toList := by
  rw [Sys.history_append]
  show _ ++ ((read (Sys.after platform labels) label).toList ++ []) = _
  rw [List.append_nil]

end History

/-! ## Claims and model calls -/

/-- The iteration that a step claims: the run, and its count after the claim has been
committed. -/
def Label.claim? (platform : Platform) (s : Sys) : Label → Option (AgentRunId × Nat)
  | .advance id (.ports answers) =>
      match s.call? id with
      | some ⟨_, host, .claim loop, _⟩ =>
          match driveClaim platform host answers loop.workspaceId loop.runId s.shared.world with
          | .ok iteration _ => some (loop.runId, iteration.claimed.workingState.iteration)
          | .error _ _ => none
      | _ => none
  | _ => none

/-- A call that awaits the reply of the model: its run and the iteration it works on. -/
def Point.modelCall? : Point → Option (AgentRunId × Nat)
  | .model loop iteration => some (loop.runId, iteration.claimed.workingState.iteration)
  | _ => none

/-- The model call that a step makes: a call comes to await the model's reply. -/
def Label.modelCall? (platform : Platform) (s : Sys) : Label → Option (AgentRunId × Nat)
  | .advance id input =>
      match s.call? id with
      | some call =>
          if call.point.modelCall? = none then
            (s.shared.advance platform call input).next.bind fun next => next.1.modelCall?
          else none
      | none => none
  | _ => none

/-- The iterations of one run in a history. -/
def iterationsOf (history : List (AgentRunId × Nat)) (runId : AgentRunId) : List Nat :=
  (history.filter fun entry => entry.1 = runId).map Prod.snd

/-- The claims of a run that a history from an empty database has committed. -/
def claimsOf (platform : Platform) (labels : List Label) (runId : AgentRunId) : List Nat :=
  iterationsOf (Sys.history platform (Label.claim? platform) .empty labels) runId

/-- The model calls for a run in a history from an empty database. -/
def modelCallsOf (platform : Platform) (labels : List Label) (runId : AgentRunId) : List Nat :=
  iterationsOf (Sys.history platform (Label.modelCall? platform) .empty labels) runId

section ModelCalls

variable {platform : Platform}

theorem resumeFrames_modelCall {frames : List Frame} {result : Except Exc AgentRun}
    {next : Point × List Frame} (h : resumeFrames frames result = some next) :
    next.1.modelCall? = none :=
  resumeFrames_leads (P := fun p => p.modelCall? = none) (fun _ => rfl) (fun _ _ _ _ => rfl)
    (fun _ _ _ _ _ => rfl) (fun _ _ _ => rfl) h

theorem Loop.handle_modelCall (loop : Loop) (e : Exc) : (loop.handle e).modelCall? = none :=
  Loop.handle_leads (P := fun p => p.modelCall? = none) (fun _ _ _ _ => rfl) loop e

theorem Loop.advance_modelCall (loop : Loop) : loop.advance.modelCall? = none :=
  Loop.advance_leads (P := fun p => p.modelCall? = none) (fun _ => rfl) (fun _ _ _ _ => rfl) loop

/-- A step after which the call does not await the model. -/
def Quiet (a : Advance) : Prop :=
  ∀ p, a.next = some p → p.1.modelCall? = none

theorem quiet_stay {shared : Shared} {call : Call} (away : call.point.modelCall? = none) :
    Quiet (shared.stay call.point call.frames) := by
  rintro p ⟨⟩
  exact away

theorem quiet_commit {shared : Shared} {α : Type} {m : RuntimeTxn α}
    {next : Except Exc α → Option (Point × List Frame)}
    (h : ∀ r p, next r = some p → p.1.modelCall? = none) : Quiet (shared.commit m next) :=
  fun p hp => h _ p hp

theorem quiet_recover {shared : Shared} {id : Nat} {m : RuntimeTxn RecoveryStep}
    {next : Except Exc RecoveryStep → Option (Point × List Frame)}
    (h : ∀ r p, next r = some p → p.1.modelCall? = none) : Quiet (shared.recover id m next) :=
  fun p hp => h _ p hp

theorem recoveryNext_modelCall {workspaceId : WorkspaceId} {runId : AgentRunId}
    {invocationId : ToolInvocationId} {connector : Connector} {frames : List Frame}
    {r : Except Exc RecoveryStep} {p : Point × List Frame}
    (h : recoveryNext workspaceId runId invocationId connector frames r = some p) :
    p.1.modelCall? = none := by
  unfold recoveryNext at h
  split at h
  · cases h
    rfl
  · cases h
    rfl
  · cases h
  · cases h

/-- Only a claim leads to the model. -/
theorem advance_quiet (shared : Shared) (call : Call) (input : Input)
    (noClaim : ∀ loop answers, call.point = .claim loop → input = .ports answers → False)
    (away : call.point.modelCall? = none) : Quiet (shared.advance platform call input) := by
  obtain ⟨id, host, point, frames⟩ := call
  cases point with
  | driveEntry workspaceId runId expected =>
      cases input with
      | next =>
          show Quiet (shared.commit _ (afterEntry workspaceId runId frames))
          refine quiet_commit fun r p hp => ?_
          cases r with
          | ok run =>
              cases hp
              exact Loop.advance_modelCall _
          | error e => exact resumeFrames_modelCall hp
      | _ => exact quiet_stay away
  | claim loop =>
      cases input with
      | ports answers => exact (noClaim loop answers rfl rfl).elim
      | _ => exact quiet_stay away
  | model loop iteration => cases away
  | failing workspaceId runId code cancelled =>
      cases input with
      | next =>
          show Quiet (shared.commit _ fun result =>
            resumeFrames frames (failingResult cancelled result))
          exact quiet_commit fun r p hp => resumeFrames_modelCall hp
      | _ => exact quiet_stay away
  | invoke workspaceId runId action expected =>
      cases input with
      | next =>
          show Quiet (shared.commit _ (afterInvoke frames))
          refine quiet_commit fun r p hp => ?_
          unfold afterInvoke at hp
          split at hp
          · exact resumeFrames_modelCall hp
          · cases hp
            rfl
          · exact resumeFrames_modelCall hp
      | _ => exact quiet_stay away
  | entering d =>
      cases input with
      | next | interrupt e =>
          rintro p ⟨⟩
          rfl
      | _ => exact quiet_stay away
  | executing d =>
      show Quiet (shared.execute platform d frames input)
      unfold Shared.execute
      split <;> rintro p ⟨⟩ <;> rfl
  | replied d reply =>
      cases input with
      | next =>
          show Quiet (shared.commit _ (afterReply d reply frames))
          refine quiet_commit fun r p hp => ?_
          cases r with
          | ok run => exact resumeFrames_modelCall hp
          | error e =>
              cases hp
              rfl
      | interrupt e =>
          rintro p ⟨⟩
          rfl
      | _ => exact quiet_stay away
  | again d error =>
      cases input with
      | next =>
          show Quiet (shared.commit _ (afterRaise error frames))
          refine quiet_commit fun r p hp => ?_
          cases r <;> exact resumeFrames_modelCall hp
      | _ => exact quiet_stay away
  | resumeExpire workspaceId runId intentId expected =>
      cases input with
      | next =>
          show Quiet (ite _ _ _)
          split
          · exact fun p hp => resumeFrames_modelCall hp
          · show Quiet (shared.commit _ (afterExpire workspaceId runId intentId expected frames))
            refine quiet_commit fun r p hp => ?_
            cases r with
            | ok record =>
                cases hp
                rfl
            | error e => exact resumeFrames_modelCall hp
      | _ => exact quiet_stay away
  | resumeOpen workspaceId runId intentId expected =>
      cases input with
      | next =>
          show Quiet (shared.commit _ (afterResume workspaceId runId intentId frames))
          refine quiet_commit fun r p hp => ?_
          unfold afterResume at hp
          split at hp
          · cases hp
            rfl
          · exact resumeFrames_modelCall hp
          · exact resumeFrames_modelCall hp
      | _ => exact quiet_stay away
  | restoreWait workspaceId runId intentId resumed error =>
      cases input with
      | next =>
          show Quiet (shared.commit _ (afterRaise error frames))
          refine quiet_commit fun r p hp => ?_
          cases r <;> exact resumeFrames_modelCall hp
      | _ => exact quiet_stay away
  | recoverOpen workspaceId runId invocationId connector =>
      cases input with
      | next => exact quiet_recover fun r p hp => recoveryNext_modelCall hp
      | _ => exact quiet_stay away
  | lookUp workspaceId runId invocationId invocation connector =>
      cases input with
      | next =>
          show Quiet (shared.lookUp platform _ workspaceId runId invocationId invocation connector)
          unfold Shared.lookUp
          split
          · rintro p ⟨⟩
            rfl
          · rintro p ⟨⟩
      | _ => exact quiet_stay away
  | recoverApply workspaceId runId invocationId invocation lookup =>
      cases input with
      | next => exact quiet_recover fun r p hp => recoveryNext_modelCall hp
      | _ => exact quiet_stay away
  | repair receipt =>
      cases input with
      | next =>
          show Quiet (shared.recover _ _ fun _ => none)
          refine quiet_recover fun r p hp => ?_
          cases hp
      | _ => exact quiet_stay away

/-- A step that leaves no call waiting for the model makes no model call. -/
theorem modelCall_quiet {s : Sys} {id : Nat} {input : Input} {call : Call}
    (found : s.call? id = some call) (quiet : Quiet (s.shared.advance platform call input)) :
    Label.modelCall? platform s (.advance id input) = none := by
  simp only [Label.modelCall?, found]
  split
  · cases next : (s.shared.advance platform call input).next with
    | none => rfl
    | some p => exact quiet p next
  · rfl

/-- The model is called exactly when an iteration has been claimed, and for that iteration. -/
theorem modelCall_eq_claim (s : Sys) (label : Label) :
    label.modelCall? platform s = label.claim? platform s := by
  cases label with
  | advance id input =>
      cases found : s.call? id with
      | none => cases input <;> simp [Label.modelCall?, Label.claim?, found]
      | some call =>
          by_cases claiming : ∃ loop answers, call.point = .claim loop ∧ input = .ports answers
          · obtain ⟨loop, answers, point, rfl⟩ := claiming
            obtain ⟨callId, host, _, frames⟩ := call
            obtain rfl : _ = Point.claim loop := point
            simp only [Label.modelCall?, Label.claim?, found, Point.modelCall?, if_true,
              Shared.advance, Shared.commit]
            cases driveClaim platform host answers loop.workspaceId loop.runId s.shared.world with
            | ok iteration w => rfl
            | error e w => exact Loop.handle_modelCall loop e
          · have unclaimed : Label.claim? platform s (.advance id input) = none := by
              cases input with
              | ports answers =>
                  obtain ⟨callId, host, point, frames⟩ := call
                  cases point with
                  | claim loop => exact (claiming ⟨loop, answers, rfl, rfl⟩).elim
                  | _ => simp [Label.claim?, found]
              | _ => rfl
            rw [unclaimed]
            by_cases away : call.point.modelCall? = none
            · apply modelCall_quiet found
              exact advance_quiet s.shared call input
                (fun loop answers point h => claiming ⟨loop, answers, point, h⟩) away
            · simp [Label.modelCall?, found, away]
  | _ => rfl

/-- The model calls of a run are its claims, one by one. -/
theorem modelCallsOf_eq_claimsOf (labels : List Label) (runId : AgentRunId) :
    modelCallsOf platform labels runId = claimsOf platform labels runId := by
  have same : Label.modelCall? platform = Label.claim? platform :=
    funext₂ fun s label => modelCall_eq_claim s label
  unfold modelCallsOf claimsOf
  rw [same]

end ModelCalls

/-! ## Claims and iterations -/

/-- The iteration count of a run; a run that is not stored counts none. -/
def RuntimeStore.iterations (s : RuntimeStore) (runId : AgentRunId) : Nat :=
  ((s.runs.get? runId).map fun run => run.workingState.iteration).getD 0

/-- What a step does to the iteration counts, with the claim that it commits. -/
inductive Counted (s s' : RuntimeStore) : Option (AgentRunId × Nat) → Prop
  | claimed (id : AgentRunId) (counts : s'.iterations id = s.iterations id + 1)
      (others : ∀ other, other ≠ id → s'.iterations other = s.iterations other) :
      Counted s s' (some (id, s.iterations id + 1))
  | kept (counts : ∀ id, s'.iterations id = s.iterations id) : Counted s s' none

section Counting

variable {platform : Platform}

theorem iterations_put {s s' : RuntimeStore} {run : AgentRun} (stored : s'.runs = s.runs.put run) :
    s'.iterations run.id = run.workingState.iteration ∧
      ∀ other, other ≠ run.id → s'.iterations other = s.iterations other := by
  constructor
  · have found : s'.runs.get? run.id = some run := by
      rw [stored]
      exact Registry.get?_put_self _ run
    simp [RuntimeStore.iterations, found]
  · intro other ne
    have found : s'.runs.get? other = s.runs.get? other := by
      rw [stored]
      exact Registry.get?_put_ne _ fun same => ne same.symm
    simp [RuntimeStore.iterations, found]

/-- Without a claim every run keeps its count; a new run starts at none. -/
theorem RunsEffect.iterations_eq {S : List Service} {s s' : RuntimeStore}
    (effect : RunsEffect S s s') (noClaim : .claim ∉ S) (id : AgentRunId) :
    s'.iterations id = s.iterations id := by
  cases effect with
  | same runs => simp [RuntimeStore.iterations, runs]
  | started allowed run facts stored =>
      obtain ⟨here, others⟩ := iterations_put stored
      by_cases same : id = run.id
      · subst same
        rw [here, facts.state]
        simp [RuntimeStore.iterations, facts.absent, AgentWorkingState.initial]
      · exact others id same
  | saved service allowed previous run present stored step =>
      obtain ⟨here, others⟩ := iterations_put stored
      by_cases same : id = run.id
      · subst same
        have other : service ≠ .claim := by
          rintro rfl
          exact noClaim allowed
        rw [here, step.iteration_eq other]
        simp [RuntimeStore.iterations, present]
      · exact others id same

/-- Only a drive that is at a claim may save a run as claimed. -/
theorem claim_mem_services {s : Sys} {label : Label} (h : .claim ∈ label.services s) :
    ∃ id input call loop, label = .advance id input ∧ s.call? id = some call ∧
      call.point = .claim loop := by
  cases label with
  | advance id input =>
      have services : Label.services s (.advance id input) =
          ((s.call? id).map fun call => call.point.services).getD [] := rfl
      rw [services] at h
      cases found : s.call? id with
      | none => simp [found] at h
      | some call =>
          rw [found] at h
          replace h : .claim ∈ call.point.services := h
          cases point : call.point with
          | claim loop => exact ⟨id, input, call, loop, rfl, found, point⟩
          | _ => simp [point, Point.services, invokeServices] at h
  | command c => cases c <;> simp [Label.services, HostCommand.services] at h
  | _ => simp [Label.services] at h

/-- One step of the system counts its claim, and nothing else counts. -/
theorem step_counted (s : Sys) (label : Label) :
    Counted s.store (s.step platform label).store (label.claim? platform s) := by
  by_cases claiming : .claim ∈ label.services s
  · obtain ⟨id, input, call, loop, rfl, found, point⟩ := claim_mem_services claiming
    obtain ⟨callId, host, _, frames⟩ := call
    obtain rfl : _ = Point.claim loop := point
    have after : s.step platform (.advance id input) =
        s.moved ⟨callId, host, .claim loop, frames⟩
          (s.shared.advance platform ⟨callId, host, .claim loop, frames⟩ input) := by
      simp [Sys.step, found]
    rw [after]
    cases input with
    | ports answers =>
        show Counted s.store (World.after (driveClaim platform host answers loop.workspaceId
          loop.runId s.shared.world)).store _
        simp only [Label.claim?, found]
        cases h : driveClaim platform host answers loop.workspaceId loop.runId s.shared.world with
        | ok iteration w =>
            obtain ⟨run, at', present, -, evolved, stored⟩ := driveClaim_runs h
            obtain ⟨here, others⟩ := iterations_put stored
            have key : AgentRun.key run = loop.runId := Registry.key_of_get? present
            have id : iteration.claimed.id = loop.runId := evolved.id.trans key
            have before : s.store.iterations loop.runId = run.workingState.iteration := by
              simp [RuntimeStore.iterations, present]
            have counted : iteration.claimed.workingState.iteration =
                s.store.iterations loop.runId + 1 := by
              rw [before, evolved.workingState_eq]
              rfl
            rw [id, counted] at here
            rw [id] at others
            show Counted s.store w.store
              (some (loop.runId, iteration.claimed.workingState.iteration))
            rw [counted]
            exact .claimed loop.runId here others
        | error e w =>
            have rolled := (RollsBack.atomic _).store_eq h
            refine .kept fun other => ?_
            show w.store.iterations other = s.shared.world.store.iterations other
            rw [rolled]
    | _ => exact .kept fun _ => rfl
  · have unclaimed : label.claim? platform s = none := by
      cases label with
      | advance id input =>
          cases input with
          | ports answers =>
              cases found : s.call? id with
              | none => simp [Label.claim?, found]
              | some call =>
                  obtain ⟨callId, host, point, frames⟩ := call
                  cases point with
                  | claim loop => simp [Label.services, found, Point.services] at claiming
                  | _ => simp [Label.claim?, found]
          | _ => rfl
      | _ => rfl
    rw [unclaimed]
    exact .kept ((step_runs platform s label).iterations_eq claiming)

theorem iterationsOf_append (before after : List (AgentRunId × Nat)) (runId : AgentRunId) :
    iterationsOf (before ++ after) runId =
      iterationsOf before runId ++ iterationsOf after runId := by
  simp [iterationsOf]

/-- The claims of a run are numbered from one, and its iteration is the last of them. -/
theorem claimsOf_eq (labels : List Label) (runId : AgentRunId) :
    claimsOf platform labels runId =
      List.range' 1 ((Sys.after platform labels).store.iterations runId) := by
  induction labels using List.reverseRecOn with
  | nil => rfl
  | append_singleton labels label ih =>
      have step := @step_counted platform (Sys.after platform labels) label
      unfold claimsOf at ih ⊢
      rw [Sys.history_concat, Sys.after_concat, iterationsOf_append, ih]
      cases claim : label.claim? platform (Sys.after platform labels) with
      | none =>
          rw [claim] at step
          cases step with
          | kept counts =>
              rw [counts runId]
              exact List.append_nil _
      | some entry =>
          rw [claim] at step
          cases step with
          | claimed id counts others =>
              by_cases same : runId = id
              · subst same
                rw [counts, List.range'_concat]
                simp [iterationsOf, Nat.add_comm]
              · rw [others runId same]
                have other : id ≠ runId := fun h => same h.symm
                simp [iterationsOf, other]

end Counting

/-! ## Tool calls -/

/-- The tool calls of a run. -/
def RuntimeStore.invocationsOf (s : RuntimeStore) (runId : AgentRunId) : List ToolInvocation :=
  s.toolInvocations.values.filter (·.runId = runId)

/-- The claimed calls of a run. -/
def RuntimeStore.claimedBy (s : RuntimeStore) (runId : AgentRunId) : List InvocationFields :=
  s.claims.filter (·.runId = runId)

theorem invocationsOf_claims (s : RuntimeStore) (runId : AgentRunId) :
    (s.invocationsOf runId).map ToolInvocation.claimFields = s.claimedBy runId := by
  unfold RuntimeStore.invocationsOf RuntimeStore.claimedBy RuntimeStore.claims
  rw [List.filter_map]
  rfl

theorem invocationsOf_length (s : RuntimeStore) (runId : AgentRunId) :
    (s.invocationsOf runId).length = (s.claimedBy runId).length := by
  rw [← invocationsOf_claims, List.length_map]

theorem invocationsOf_tool (s : RuntimeStore) (runId : AgentRunId) (toolId : ToolId) :
    ((s.invocationsOf runId).filter (·.toolVersion.definition.id = toolId)).length =
      ((s.claimedBy runId).filter (·.toolVersion.definition.id = toolId)).length := by
  rw [← invocationsOf_claims, List.filter_map, List.length_map]
  rfl

/-- Every call belongs to a stored run, and every run is within its budget of calls. -/
structure Budgeted (s : RuntimeStore) : Prop where
  known : ∀ f ∈ s.claims, s.runs.get? f.runId ≠ none
  calls : ∀ id run, s.runs.get? id = some run →
    (s.claimedBy id).length ≤ run.limits.maxToolCalls
  perTool : ∀ id run, s.runs.get? id = some run → ∀ toolId : ToolId,
    ((s.claimedBy id).filter (·.toolVersion.definition.id = toolId)).length ≤
      run.limits.maxCallsPerTool

section ToolCalls

variable {platform : Platform} {S : List Service} {s s' : RuntimeStore}

/-- The limits of a run are those it was started with. -/
theorem RunsEffect.limits (effect : RunsEffect S s s') {id : AgentRunId} {run : AgentRun}
    (found : s'.runs.get? id = some run) :
    s.runs.get? id = none ∨
      ∃ previous, s.runs.get? id = some previous ∧ previous.limits = run.limits := by
  cases effect.source found with
  | kept present => exact .inr ⟨run, present, rfl⟩
  | started allowed facts =>
      have key : AgentRun.key run = id := Registry.key_of_get? found
      exact .inl (key ▸ facts.absent)
  | stepped service allowed previous present step =>
      obtain ⟨at', change, evolved⟩ := step.evolved
      exact .inr ⟨previous, present, (congrArg RunFields.limits evolved.fields).symm⟩

/-- A stored run stays stored. -/
theorem RunsEffect.stays (effect : RunsEffect S s s') {id : AgentRunId}
    (found : s.runs.get? id ≠ none) : s'.runs.get? id ≠ none := by
  obtain ⟨run, found⟩ := Option.ne_none_iff_exists'.mp found
  obtain ⟨next, later, -⟩ := effect.later found
  rw [later]
  exact Option.some_ne_none _

/-- A run that is not stored has made no call. -/
theorem Budgeted.unclaimed (h : Budgeted s) {id : AgentRunId} (absent : s.runs.get? id = none) :
    s.claimedBy id = [] := by
  apply List.filter_eq_nil_iff.mpr
  intro f mem same
  have id : f.runId = id := by simpa using same
  exact h.known f mem (id ▸ absent)

theorem Budgeted.kept (h : Budgeted s) (effect : RunsEffect S s s')
    (same : s'.claims = s.claims) : Budgeted s' := by
  have own : ∀ id, s'.claimedBy id = s.claimedBy id := by
    intro id
    unfold RuntimeStore.claimedBy
    rw [same]
  refine ⟨fun f mem => effect.stays (h.known f (same ▸ mem)), ?_, ?_⟩
  · intro id run found
    rw [own]
    rcases effect.limits found with absent | ⟨previous, present, limits⟩
    · simp [h.unclaimed absent]
    · exact limits ▸ h.calls id previous present
  · intro id run found toolId
    rw [own]
    rcases effect.limits found with absent | ⟨previous, present, limits⟩
    · simp [h.unclaimed absent]
    · exact limits ▸ h.perTool id previous present toolId

/-- A claim that dispatches has found its run below both budgets. -/
theorem Budgeted.dispatched {host : Host} {runId : AgentRunId} {expected : Version}
    {w v w' : World RuntimeStore} {d : Dispatch} {governed : Option GovernedAction}
    (h : Budgeted w.store) (effect : RunsEffect S w.store w'.store)
    (facts : Dispatched platform host runId expected w v w' d governed) : Budgeted w'.store := by
  have key : AgentRun.key d.run = runId := Registry.key_of_get? facts.run
  have owner : d.invocation.runId = runId := facts.claimed.binding.2.1.trans key
  have grown := facts.claims_grown
  have budget := facts.budget
  rw [show d.run.id = runId from key] at budget
  simp only [budgetExceeded, not_or, not_le] at budget
  obtain ⟨calls, perTool⟩ := budget
  replace calls := (invocationsOf_length w.store runId).symm.trans_lt calls
  replace perTool := (invocationsOf_tool w.store runId _).symm.trans_lt perTool
  have own : ∀ id, w'.store.claimedBy id =
      w.store.claimedBy id ++ if runId = id then [d.invocation.claimFields] else [] := by
    intro id
    unfold RuntimeStore.claimedBy
    have here : d.invocation.claimFields.runId = runId := owner
    rw [grown, List.filter_append]
    by_cases same : runId = id <;> simp [here, same]
  refine ⟨?_, ?_, ?_⟩
  · intro f mem
    rw [grown] at mem
    rcases List.mem_append.mp mem with mem | mem
    · exact effect.stays (h.known f mem)
    · rw [List.mem_singleton.mp mem]
      apply effect.stays
      show w.store.runs.get? d.invocation.runId ≠ none
      rw [owner, facts.run]
      exact Option.some_ne_none _
  · intro id run found
    rw [own]
    rcases effect.limits found with absent | ⟨previous, present, limits⟩
    · have other : runId ≠ id := by
        rintro rfl
        cases facts.run.symm.trans absent
      simp [h.unclaimed absent, other]
    · by_cases same : runId = id
      · subst same
        obtain rfl := Option.some.inj (facts.run.symm.trans present)
        rw [if_pos rfl, List.length_append, ← limits]
        exact calls
      · rw [if_neg same, List.append_nil, ← limits]
        exact h.calls id previous present
  · intro id run found toolId
    rw [own, List.filter_append, List.length_append]
    rcases effect.limits found with absent | ⟨previous, present, limits⟩
    · have other : runId ≠ id := by
        rintro rfl
        cases facts.run.symm.trans absent
      simp [h.unclaimed absent, other]
    · have before := h.perTool id previous present toolId
      rw [← limits]
      by_cases same : runId = id
      · subst same
        obtain rfl := Option.some.inj (facts.run.symm.trans present)
        rw [if_pos rfl]
        by_cases here : d.invocation.toolVersion.definition.id = toolId
        · subst here
          have one := List.length_filter_le
            (fun f : InvocationFields => f.toolVersion.definition.id =
              d.invocation.toolVersion.definition.id) [d.invocation.claimFields]
          rw [List.length_singleton] at one
          omega
        · have none : [d.invocation.claimFields].filter
              (fun f : InvocationFields => f.toolVersion.definition.id = toolId) = [] := by
            simp [ToolInvocation.claimFields, here]
          rw [none]
          exact before
      · rw [if_neg same]
        exact before

theorem Budgeted.step {s : Sys} (h : Budgeted s.store) (label : Label) :
    Budgeted (s.step platform label).store := by
  have effect := step_runs platform s label
  cases claims_effect platform s label with
  | kept same => exact h.kept effect same
  | added host runId expected d governed v facts => exact h.dispatched effect facts

theorem Budgeted.after (labels : List Label) : Budgeted (Sys.after platform labels).store := by
  refine Sys.run_keeps (P := fun s => Budgeted s.store) (fun s label h => h.step label) ?_ labels
  refine ⟨?_, ?_, ?_⟩
  · intro f mem
    cases mem
  · intro id run found
    cases found
  · intro id run found
    cases found

end ToolCalls

/-! ## The budgets -/

theorem iterations_found {s : RuntimeStore} {runId : AgentRunId} {run : AgentRun}
    (found : s.runs.get? runId = some run) : s.iterations runId = run.workingState.iteration := by
  simp [RuntimeStore.iterations, found]

/-- A longer history has at least the claims of a shorter one. -/
theorem claimsOf_le (platform : Platform) (labels more : List Label) (runId : AgentRunId) :
    (claimsOf platform labels runId).length ≤
      (claimsOf platform (labels ++ more) runId).length := by
  unfold claimsOf
  rw [Sys.history_append, iterationsOf_append, List.length_append]
  exact Nat.le_add_right _ _

/-- Along every history a run counts its committed claims, which never exceed its limit;
the model is called at most once for each of them, and its tool calls stay within both of
their limits. -/
theorem run_budgets (platform : Platform) :
    (∀ labels runId run, (Sys.after platform labels).store.runs.get? runId = some run →
      run.workingState.iteration = (claimsOf platform labels runId).length ∧
        run.workingState.iteration ≤ run.limits.maxIterations) ∧
    (∀ labels more runId run later,
      (Sys.after platform labels).store.runs.get? runId = some run →
      (Sys.after platform (labels ++ more)).store.runs.get? runId = some later →
      run.workingState.iteration ≤ later.workingState.iteration) ∧
    (∀ labels runId, (modelCallsOf platform labels runId).Nodup ∧
      ∀ run, (Sys.after platform labels).store.runs.get? runId = some run →
        (∀ iteration ∈ modelCallsOf platform labels runId,
          1 ≤ iteration ∧ iteration ≤ run.workingState.iteration) ∧
        (modelCallsOf platform labels runId).length ≤ run.limits.maxIterations) ∧
    (∀ labels runId run, (Sys.after platform labels).store.runs.get? runId = some run →
      ((Sys.after platform labels).store.invocationsOf runId).length ≤ run.limits.maxToolCalls ∧
        ∀ toolId : ToolId, (((Sys.after platform labels).store.invocationsOf runId).filter
          (·.toolVersion.definition.id = toolId)).length ≤ run.limits.maxCallsPerTool) := by
  have counted : ∀ labels runId run,
      (Sys.after platform labels).store.runs.get? runId = some run →
      run.workingState.iteration = (claimsOf platform labels runId).length := by
    intro labels runId run found
    rw [claimsOf_eq, List.length_range', iterations_found found]
  have bounded : ∀ run : AgentRun, run.workingState.iteration ≤ run.limits.maxIterations :=
    fun run => run.valid.bounds.1
  refine ⟨?_, ?_, ?_, ?_⟩
  · intro labels runId run found
    exact ⟨counted labels runId run found, bounded run⟩
  · intro labels more runId run later found foundLater
    rw [counted labels runId run found, counted (labels ++ more) runId later foundLater]
    exact claimsOf_le platform labels more runId
  · intro labels runId
    rw [modelCallsOf_eq_claimsOf]
    constructor
    · rw [claimsOf_eq]
      exact List.nodup_range'
    · intro run found
      constructor
      · intro iteration mem
        rw [claimsOf_eq, iterations_found found, List.mem_range'_1] at mem
        omega
      · rw [← counted labels runId run found]
        exact bounded run
  · intro labels runId run found
    have budgeted := @Budgeted.after platform labels
    constructor
    · rw [invocationsOf_length]
      exact budgeted.calls runId run found
    · intro toolId
      rw [invocationsOf_tool]
      exact budgeted.perTool runId run found toolId

end AgentCompanyOS.Runtime
