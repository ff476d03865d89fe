import AgentCompanyOS.Runtime.Effects

/-!
# Calls in flight

How a step moves the pool of calls: the call that steps is found once, it is replaced in
its place or removed, and every other call stays. A dispatched tool call goes from
`entering` to `executing` and on to its reply, and only a claim puts a call there.
-/

set_option autoImplicit false

namespace AgentCompanyOS.Runtime

open Foundation Foundation.Txn Domain

/-! ## Runs -/

@[simp] theorem Sys.run_nil (platform : Platform) (s : Sys) : Sys.run platform s [] = s := rfl

@[simp] theorem Sys.run_cons (platform : Platform) (s : Sys) (label : Label)
    (labels : List Label) :
    Sys.run platform s (label :: labels) = Sys.run platform (s.step platform label) labels := rfl

theorem Sys.run_append (platform : Platform) (s : Sys) (before after : List Label) :
    Sys.run platform s (before ++ after) =
      Sys.run platform (Sys.run platform s before) after :=
  List.foldl_append

/-- What every step keeps holds after every run. -/
theorem Sys.run_keeps {platform : Platform} {P : Sys → Prop}
    (step : ∀ s label, P s → P (s.step platform label)) {s : Sys} (h : P s)
    (labels : List Label) : P (Sys.run platform s labels) := by
  induction labels generalizing s with
  | nil => exact h
  | cons label rest ih => exact ih (step s label h)

/-! ## The pool -/

/-- The call after its step. -/
def Call.moved (call : Call) (next : Point × List Frame) : Call :=
  { call with point := next.1, frames := next.2 }

/-- Calls have distinct numbers, all of them below the next one. -/
structure Sys.Numbered (s : Sys) : Prop where
  distinct : (s.calls.map Call.id).Nodup
  below : ∀ call ∈ s.calls, call.id < s.issued

theorem Sys.call?_eq_some {s : Sys} {id : Nat} {call : Call} (h : s.call? id = some call) :
    call ∈ s.calls ∧ call.id = id :=
  ⟨List.mem_of_find?_eq_some h, by simpa using List.find?_some h⟩

theorem moveCall_of_ne {calls : List Call} {call : Call} (next : Option (Point × List Frame))
    (other : ∀ c ∈ calls, c.id ≠ call.id) : moveCall calls call next = calls := by
  cases next with
  | none =>
      refine List.filter_eq_self.mpr fun c hc => ?_
      simpa using other c hc
  | some next =>
      refine (List.map_congr_left fun c hc => ?_).trans (List.map_id calls)
      simp [other c hc]

theorem moveCall_append (before after : List Call) (call : Call)
    (next : Option (Point × List Frame)) :
    moveCall (before ++ after) call next =
      moveCall before call next ++ moveCall after call next := by
  cases next with
  | none => exact List.filter_append ..
  | some next => exact List.map_append

/-- The call that steps is replaced in its place or removed; the others stay. -/
theorem moveCall_split {calls : List Call} {call : Call} (distinct : (calls.map Call.id).Nodup)
    (present : call ∈ calls) (next : Option (Point × List Frame)) :
    ∃ before after, calls = before ++ call :: after ∧
      moveCall calls call next = before ++ (next.map call.moved).toList ++ after := by
  obtain ⟨before, after, rfl⟩ := List.append_of_mem present
  refine ⟨before, after, rfl, ?_⟩
  rw [List.map_append, List.map_cons, List.nodup_append] at distinct
  obtain ⟨-, tail, apart⟩ := distinct
  have left : ∀ c ∈ before, c.id ≠ call.id := fun c hc =>
    apart c.id (List.mem_map_of_mem hc) call.id List.mem_cons_self
  have right : ∀ c ∈ after, c.id ≠ call.id := fun c hc same =>
    (List.nodup_cons.mp tail).1 (same ▸ List.mem_map_of_mem hc)
  have here : moveCall [call] call next = (next.map call.moved).toList := by
    cases next with
    | none => simp [moveCall]
    | some next => simp [moveCall, Call.moved]
  rw [moveCall_append, ← List.singleton_append, moveCall_append, moveCall_of_ne next left,
    moveCall_of_ne next right, here, List.append_assoc]

theorem Sys.Numbered.step {s : Sys} (h : s.Numbered) (platform : Platform) (label : Label) :
    (s.step platform label).Numbered := by
  cases label with
  | «open» host request =>
      refine ⟨?_, fun call hc => ?_⟩
      · show ((s.calls ++ [_]).map Call.id).Nodup
        rw [List.map_append, List.nodup_append]
        refine ⟨h.distinct, List.nodup_singleton _, ?_⟩
        rintro a ha b hb rfl
        obtain ⟨c, hc, rfl⟩ := List.mem_map.mp ha
        have below := h.below c hc
        rw [List.mem_singleton.mp hb] at below
        exact Nat.lt_irrefl _ below
      · rcases List.mem_append.mp hc with hc | hc
        · exact Nat.lt_succ_of_lt (h.below call hc)
        · rw [List.mem_singleton.mp hc]
          exact Nat.lt_succ_self _
  | advance id input =>
      unfold Sys.step
      dsimp only
      split
      · next call found =>
          obtain ⟨present, -⟩ := Sys.call?_eq_some found
          have ids : ∀ next, List.Sublist ((moveCall s.calls call next).map Call.id)
              (s.calls.map Call.id) := by
            intro next
            obtain ⟨before, after, split, moved⟩ := moveCall_split h.distinct present next
            rw [moved, split]
            cases next with
            | none => simp
            | some next => simp [Call.moved]
          refine ⟨h.distinct.sublist (ids _), fun c hc => ?_⟩
          have mem := (ids _).subset (List.mem_map_of_mem hc)
          obtain ⟨c', hc', same⟩ := List.mem_map.mp mem
          rw [← same]
          exact h.below c' hc'
      · exact h
  | drop id =>
      exact ⟨h.distinct.sublist (List.filter_sublist.map _),
        fun call hc => h.below call (List.mem_filter.mp hc).1⟩
  | crash => exact ⟨List.nodup_nil, by simp [Sys.step]⟩
  | command command => exact ⟨h.distinct, h.below⟩
  | restore request =>
      show (s.restored request).Numbered
      unfold Sys.restored
      split
      · exact ⟨List.nodup_nil, by simp⟩
      · exact h

theorem Sys.Numbered.empty : Sys.empty.Numbered := ⟨List.nodup_nil, by simp [Sys.empty]⟩

/-! ## Dispatched calls -/

/-- The dispatch that a point belongs to. -/
def Point.dispatch? : Point → Option Dispatch
  | .entering d => some d
  | .executing d => some d
  | .replied d _ => some d
  | .again d _ => some d
  | _ => none

/-- The `except` clauses of a drive lead to its failure. -/
theorem Loop.handle_leads {P : Point → Prop}
    (failing : ∀ workspaceId runId code cancelled, P (.failing workspaceId runId code cancelled))
    (loop : Loop) (e : Exc) : P (loop.handle e) := by
  unfold Loop.handle
  split <;> exact failing _ _ _ _

/-- A loop goes on to its next claim, or to the failure that ends it. -/
theorem Loop.advance_leads {P : Point → Prop} (claim : ∀ loop, P (.claim loop))
    (failing : ∀ workspaceId runId code cancelled, P (.failing workspaceId runId code cancelled))
    (loop : Loop) : P loop.advance := by
  unfold Loop.advance
  split
  · exact failing _ _ _ _
  · exact claim _

/-- The frames under a call lead to the head of a loop, a failure, a restored wait or the
entry of a drive. -/
theorem resumeFrames_leads {P : Point → Prop} (claim : ∀ loop, P (.claim loop))
    (failing : ∀ workspaceId runId code cancelled, P (.failing workspaceId runId code cancelled))
    (restore : ∀ workspaceId runId intentId resumed e,
      P (.restoreWait workspaceId runId intentId resumed e))
    (entry : ∀ workspaceId runId expected, P (.driveEntry workspaceId runId expected))
    {frames : List Frame} {result : Except Exc AgentRun} {next : Point × List Frame}
    (h : resumeFrames frames result = some next) : P next.1 := by
  induction frames generalizing result with
  | nil => cases h
  | cons frame rest ih =>
      cases frame with
      | loop loop =>
          cases result with
          | ok run =>
              unfold resumeFrames at h
              split at h
              · exact ih h
              · cases h
                exact Loop.advance_leads claim failing _
          | error e =>
              cases h
              exact Loop.handle_leads failing loop e
      | approval workspaceId runId intentId resumed =>
          cases result with
          | ok run => exact ih h
          | error e =>
              unfold resumeFrames at h
              split at h
              · exact ih h
              · cases h
                exact restore _ _ _ _ _
      | thenDrive workspaceId runId =>
          cases result with
          | ok run =>
              unfold resumeFrames at h
              split at h
              · cases h
                exact entry _ _ _
              · exact ih h
          | error e => exact ih h

theorem Loop.handle_dispatch (loop : Loop) (e : Exc) : (loop.handle e).dispatch? = none :=
  Loop.handle_leads (P := fun p => p.dispatch? = none) (fun _ _ _ _ => rfl) loop e

theorem Loop.advance_dispatch (loop : Loop) : loop.advance.dispatch? = none :=
  Loop.advance_leads (P := fun p => p.dispatch? = none) (fun _ => rfl) (fun _ _ _ _ => rfl) loop

/-- The frames under a call never lead back into a dispatch. -/
theorem resumeFrames_dispatch {frames : List Frame} {result : Except Exc AgentRun}
    {next : Point × List Frame} (h : resumeFrames frames result = some next) :
    next.1.dispatch? = none :=
  resumeFrames_leads (P := fun p => p.dispatch? = none) (fun _ => rfl) (fun _ _ _ _ => rfl)
    (fun _ _ _ _ _ => rfl) (fun _ _ _ => rfl) h

/-- How a step of a call moves it with respect to dispatches. -/
inductive Moved (platform : Platform) (shared : Shared) (call : Call) (a : Advance) : Prop
  /-- The call is not at a dispatch afterwards, and no executor was entered. -/
  | outside (next : ∀ p, a.next = some p → p.1.dispatch? = none)
      (entries : ∀ i, .entered i ∉ a.entries)
  /-- The call stays at its dispatch, or the dispatch goes on without an entry. -/
  | within (d : Dispatch) (point : Point) (before : call.point.dispatch? = some d)
      (next : a.next = some (point, call.frames)) (after : point.dispatch? = some d)
      (entering : point = .entering d → call.point = .entering d) (entries : a.entries = [])
  /-- The executor is entered. -/
  | entered (d : Dispatch) (before : call.point = .entering d) (same : a.shared = shared)
      (next : a.next = some (.executing d, call.frames))
      (entries : a.entries = [.entered d.invocation])
  /-- A claim has dispatched. -/
  | dispatched (workspaceId : WorkspaceId) (runId : AgentRunId) (action : Action)
      (expected : Version) (d : Dispatch) (w : World RuntimeStore)
      (before : call.point = .invoke workspaceId runId action expected)
      (claim : invokeClaim platform call.host workspaceId runId action expected shared.world =
        .ok (.dispatched d) w)
      (same : a.shared = { shared with world := w })
      (next : a.next = some (.entering d, call.frames)) (entries : a.entries = [])

section Moves

variable {platform : Platform} {shared : Shared} {call : Call}

theorem moved_stay : Moved platform shared call (shared.stay call.point call.frames) := by
  cases at' : call.point.dispatch? with
  | none =>
      refine .outside ?_ (fun _ => List.not_mem_nil)
      rintro p ⟨⟩
      exact at'
  | some d => exact .within d call.point at' rfl at' id rfl

theorem moved_commit {α : Type} {m : RuntimeTxn α}
    {next : Except Exc α → Option (Point × List Frame)}
    (h : ∀ r p, next r = some p → p.1.dispatch? = none) :
    Moved platform shared call (shared.commit m next) :=
  .outside (fun p hp => h _ p hp) (fun _ => List.not_mem_nil)

theorem moved_recover {m : RuntimeTxn RecoveryStep}
    {next : Except Exc RecoveryStep → Option (Point × List Frame)}
    (h : ∀ r p, next r = some p → p.1.dispatch? = none) :
    Moved platform shared call (shared.recover call.id m next) := by
  refine .outside (fun p hp => h _ p hp) fun i hi => ?_
  obtain ⟨r, hr⟩ : ∃ r, (shared.recover call.id m next).entries = recoveryEntries call.id r :=
    ⟨_, rfl⟩
  rw [hr] at hi
  unfold recoveryEntries at hi
  split at hi
  · simp at hi
  · cases hi

theorem moved_decide {loop : Loop} {iteration : ClaimedIteration} (reply : Except Exc PyStr)
    (answers : PortAnswers) : Moved platform shared call
      (shared.decide platform call.host loop iteration call.frames reply answers) := by
  have handled : ∀ e, Moved platform shared call
      { shared := shared, next := some (loop.handle e, call.frames) } := fun e =>
    .outside (by rintro p ⟨⟩; exact Loop.handle_dispatch loop e) (fun _ => List.not_mem_nil)
  unfold Shared.decide
  split
  · exact handled _
  · split
    · exact handled _
    · split
      · refine moved_commit fun r p hp => ?_
        unfold afterToolAction at hp
        split at hp
        · cases hp
          rfl
        · cases hp
          exact Loop.handle_dispatch loop _
      · refine moved_commit fun r p hp => ?_
        unfold afterAction at hp
        split at hp
        · exact resumeFrames_dispatch hp
        · cases hp
          exact Loop.handle_dispatch loop _

theorem moved_execute {d : Dispatch} (point : call.point = .executing d) (input : Input) :
    Moved platform shared call (shared.execute platform d call.frames input) := by
  have here : call.point.dispatch? = some d := by rw [point]; rfl
  unfold Shared.execute
  split
  · exact .within d _ here rfl rfl (by simp) rfl
  · exact .within d _ here rfl rfl (by simp) rfl
  · exact .within d _ here rfl rfl (by simp) rfl
  · exact .within d _ here rfl rfl (by simp) rfl

theorem moved_lookUp (workspaceId : WorkspaceId) (runId : AgentRunId)
    (invocationId : ToolInvocationId) (invocation : ToolInvocation) (connector : Connector) :
    Moved platform shared call
      (shared.lookUp platform call workspaceId runId invocationId invocation connector) := by
  unfold Shared.lookUp
  split
  · exact .outside (by rintro p ⟨⟩; rfl) (by simp)
  · exact .outside (by rintro p ⟨⟩) (fun _ => List.not_mem_nil)

theorem moved_invoke {workspaceId : WorkspaceId} {runId : AgentRunId} {action : Action}
    {expected : Version} (point : call.point = .invoke workspaceId runId action expected) :
    Moved platform shared call (shared.advance platform call .next) := by
  obtain ⟨id, host, _, frames⟩ := call
  obtain rfl : _ = Point.invoke workspaceId runId action expected := point
  cases h : invokeClaim platform host workspaceId runId action expected shared.world with
  | ok result w =>
      cases result with
      | returned run =>
          refine .outside (fun p hp => ?_) (fun _ => List.not_mem_nil)
          simp only [Shared.advance, Shared.commit, h, World.answer, afterInvoke] at hp
          exact resumeFrames_dispatch hp
      | dispatched d =>
          refine .dispatched workspaceId runId action expected d w rfl h ?_ ?_ rfl
          · simp [Shared.advance, Shared.commit, h, World.after]
          · simp [Shared.advance, Shared.commit, h, World.answer, afterInvoke]
  | error e w =>
      refine .outside (fun p hp => ?_) (fun _ => List.not_mem_nil)
      simp only [Shared.advance, Shared.commit, h, World.answer, afterInvoke] at hp
      exact resumeFrames_dispatch hp

theorem recoveryNext_dispatch {workspaceId : WorkspaceId} {runId : AgentRunId}
    {invocationId : ToolInvocationId} {connector : Connector} {frames : List Frame}
    {r : Except Exc RecoveryStep} {p : Point × List Frame}
    (h : recoveryNext workspaceId runId invocationId connector frames r = some p) :
    p.1.dispatch? = none := by
  unfold recoveryNext at h
  split at h
  · cases h
    rfl
  · cases h
    rfl
  · cases h
  · cases h

end Moves

theorem advance_moved (platform : Platform) (shared : Shared) (call : Call) (input : Input) :
    Moved platform shared call (shared.advance platform call input) := by
  obtain ⟨id, host, point, frames⟩ := call
  cases point with
  | driveEntry workspaceId runId expected =>
      cases input with
      | next =>
          show Moved platform shared _ (shared.commit _ (afterEntry workspaceId runId frames))
          refine moved_commit fun r p hp => ?_
          cases r with
          | ok run =>
              cases hp
              exact Loop.advance_dispatch _
          | error e => exact resumeFrames_dispatch hp
      | _ => exact moved_stay
  | claim loop =>
      cases input with
      | ports answers =>
          show Moved platform shared _ (shared.commit _ (afterClaim loop frames))
          refine moved_commit fun r p hp => ?_
          cases r with
          | ok iteration =>
              cases hp
              rfl
          | error e =>
              cases hp
              exact Loop.handle_dispatch loop e
      | _ => exact moved_stay
  | model loop iteration =>
      cases input with
      | model reply answers => exact moved_decide reply answers
      | _ => exact moved_stay
  | failing workspaceId runId code cancelled =>
      cases input with
      | next =>
          show Moved platform shared _ (shared.commit _ fun result =>
            resumeFrames frames (failingResult cancelled result))
          exact moved_commit fun r p hp => resumeFrames_dispatch hp
      | _ => exact moved_stay
  | invoke workspaceId runId action expected =>
      cases input with
      | next => exact moved_invoke rfl
      | _ => exact moved_stay
  | entering d =>
      cases input with
      | next => exact .entered d rfl rfl rfl rfl
      | interrupt e => exact .within d _ rfl rfl rfl (by simp) rfl
      | _ => exact moved_stay
  | executing d => exact moved_execute rfl input
  | replied d reply =>
      cases input with
      | next =>
          cases h : reconcileReply platform host d.invocation d.action (judgeOutput d reply).1
              (judgeOutput d reply).2.1 d.inputBytes (judgeOutput d reply).2.2 shared.world with
          | ok run w =>
              refine .outside (fun p hp => ?_) (fun _ => List.not_mem_nil)
              simp only [Shared.advance, Shared.commit, h, World.answer, afterReply] at hp
              exact resumeFrames_dispatch hp
          | error e w =>
              refine .within d (.again d e) rfl ?_ rfl (by simp) rfl
              simp only [Shared.advance, Shared.commit, h, World.answer, afterReply]
      | interrupt e => exact .within d _ rfl rfl rfl (by simp) rfl
      | _ => exact moved_stay
  | again d error =>
      cases input with
      | next =>
          show Moved platform shared _ (shared.commit _ (afterRaise error frames))
          refine moved_commit fun r p hp => ?_
          cases r <;> exact resumeFrames_dispatch hp
      | _ => exact moved_stay
  | resumeExpire workspaceId runId intentId expected =>
      cases input with
      | next =>
          show Moved platform shared _ (ite _ _ _ : Advance)
          split
          · exact .outside (fun p hp => resumeFrames_dispatch hp) (fun _ => List.not_mem_nil)
          · show Moved platform shared _
              (shared.commit _ (afterExpire workspaceId runId intentId expected frames))
            refine moved_commit fun r p hp => ?_
            cases r with
            | ok record =>
                cases hp
                rfl
            | error e => exact resumeFrames_dispatch hp
      | _ => exact moved_stay
  | resumeOpen workspaceId runId intentId expected =>
      cases input with
      | next =>
          show Moved platform shared _
            (shared.commit _ (afterResume workspaceId runId intentId frames))
          refine moved_commit fun r p hp => ?_
          unfold afterResume at hp
          split at hp
          · cases hp
            rfl
          · exact resumeFrames_dispatch hp
          · exact resumeFrames_dispatch hp
      | _ => exact moved_stay
  | restoreWait workspaceId runId intentId resumed error =>
      cases input with
      | next =>
          show Moved platform shared _ (shared.commit _ (afterRaise error frames))
          refine moved_commit fun r p hp => ?_
          cases r <;> exact resumeFrames_dispatch hp
      | _ => exact moved_stay
  | recoverOpen workspaceId runId invocationId connector =>
      cases input with
      | next => exact moved_recover fun r p hp => recoveryNext_dispatch hp
      | _ => exact moved_stay
  | lookUp workspaceId runId invocationId invocation connector =>
      cases input with
      | next => exact moved_lookUp workspaceId runId invocationId invocation connector
      | _ => exact moved_stay
  | recoverApply workspaceId runId invocationId invocation lookup =>
      cases input with
      | next => exact moved_recover fun r p hp => recoveryNext_dispatch hp
      | _ => exact moved_stay
  | repair receipt =>
      cases input with
      | next =>
          show Moved platform shared _
            (shared.recover id (repairAnswer platform host receipt) fun _ => none)
          refine @moved_recover platform shared ⟨id, host, .repair receipt, frames⟩ _ _ ?_
          intro r p hp
          cases hp
      | _ => exact moved_stay

/-! ## Where a call comes from -/

/-- A call after a step was there and is not the one that the step moves, is newly opened, or is
the one that the step has moved. -/
inductive CameFrom (platform : Platform) (s : Sys) (label : Label) (call : Call) : Prop
  | stayed (present : call ∈ s.calls) (still : ∀ input, label ≠ .advance call.id input)
  | opened (host : Host) (request : Request) (now : label = .open host request)
      (new : call = ⟨s.issued, host, request.enter.1, request.enter.2⟩)
  | moved (moving : Call) (input : Input) (next : Point × List Frame)
      (now : label = .advance moving.id input) (found : s.call? moving.id = some moving)
      (leads : (s.shared.advance platform moving input).next = some next)
      (new : call = moving.moved next)

theorem call_origin {platform : Platform} {s : Sys} (numbered : s.Numbered) (label : Label)
    {call : Call} (mem : call ∈ (s.step platform label).calls) : CameFrom platform s label call := by
  cases label with
  | «open» host request =>
      rcases List.mem_append.mp mem with mem | mem
      · exact .stayed mem (by simp)
      · exact .opened host request rfl (List.mem_singleton.mp mem)
  | advance id input =>
      cases found : s.call? id with
      | none =>
          rw [Sys.step_unknown found] at mem
          refine .stayed mem ?_
          rintro _ ⟨⟩
          simpa using List.find?_eq_none.mp found call mem
      | some moving =>
          obtain ⟨present, rfl⟩ := Sys.call?_eq_some found
          have calls : (s.step platform (.advance moving.id input)).calls =
              moveCall s.calls moving (s.shared.advance platform moving input).next := by
            rw [Sys.step_advance found]
            rfl
          obtain ⟨before, rest, split, result⟩ := moveCall_split numbered.distinct present
            (s.shared.advance platform moving input).next
          -- The call in the middle is the only one with its number.
          have distinct := numbered.distinct
          rw [split, List.map_append, List.map_cons, List.nodup_middle, List.nodup_cons,
            ← List.map_append] at distinct
          have other : ∀ c ∈ before ++ rest, ∀ input',
              Label.advance moving.id input ≠ .advance c.id input' := by
            rintro c among _ same
            have same : moving.id = c.id := (Label.advance.inj same).1
            exact distinct.1 (same ▸ List.mem_map_of_mem among)
          rw [calls, result] at mem
          rcases List.mem_append.mp mem with mem | mem
          · rcases List.mem_append.mp mem with mem | mem
            · exact .stayed (split ▸ List.mem_append_left _ mem)
                (other call (List.mem_append_left _ mem))
            · obtain ⟨next, leads, rfl⟩ := Option.map_eq_some_iff.mp (Option.mem_toList.mp mem)
              exact .moved moving input next rfl found leads rfl
          · exact .stayed (split ▸ List.mem_append_right _ (List.mem_cons_of_mem _ mem))
              (other call (List.mem_append_right _ mem))
  | drop id => exact .stayed (List.mem_filter.mp mem).1 (by simp)
  | crash => exact (List.not_mem_nil mem).elim
  | command command => exact .stayed mem (by simp)
  | restore request =>
      replace mem : call ∈ (s.restored request).calls := mem
      unfold Sys.restored at mem
      split at mem
      · exact (List.not_mem_nil mem).elim
      · exact .stayed mem (by simp)

end AgentCompanyOS.Runtime
