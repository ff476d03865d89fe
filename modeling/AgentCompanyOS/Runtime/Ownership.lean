import AgentCompanyOS.Runtime.DriveSteps
import AgentCompanyOS.Runtime.Release

/-!
# Which drive a run belongs to

A drive reads its run at the entry, and from then on it may change the run while no one else
does. `Owned` records for each call the version that it has last read at its entry or
written, and whether someone else has changed the run since. A claim of an iteration and a
failure look at neither; in the runs in which they find no foreign change, a drive changes
its run and the parents of the run only at the version that it owns.
-/

set_option autoImplicit false

namespace AgentCompanyOS.Runtime

open Foundation Foundation.Txn Domain

/-! ## What a drive owns -/

/-- The version of a stored run. -/
def RuntimeStore.versionOf (s : RuntimeStore) (runId : AgentRunId) : Option Version :=
  (s.runs.get? runId).map fun run => run.version

/-- The version of its run that a drive has last read at its entry or written, and whether no
one else has changed the run since. -/
structure Ownership where
  version : Version
  alone : Bool

/-- What each call owns of each run. -/
abbrev Owned := Nat → AgentRunId → Option Ownership

/-- The step is the entry transaction of a drive. -/
def Call.enters (call : Call) (input : Input) : Bool :=
  match call.point, input with
  | .driveEntry .., .next => true
  | _, _ => false

/-- The stored version of a run is another one after a step. -/
def Sys.changes (platform : Platform) (s : Sys) (label : Label) (runId : AgentRunId) : Bool :=
  (s.step platform label).store.versionOf runId ≠ s.store.versionOf runId

/-- The step belongs to a drive of the run by the call, which reads the run at its entry or
changes it. -/
def Sys.renews (platform : Platform) (s : Sys) (label : Label) (id : Nat) (runId : AgentRunId) :
    Bool :=
  match label with
  | .advance mover input =>
      match s.call? mover with
      | some call => mover = id && call.drives? = some runId &&
          (call.enters input || s.changes platform label runId)
      | none => false
  | _ => false

/-- What the calls own after a step. -/
def Sys.owned (platform : Platform) (s : Sys) (label : Label) (owned : Owned) : Owned :=
  fun id runId =>
    if s.renews platform label id runId = true then
      ((s.step platform label).store.versionOf runId).map fun version => ⟨version, true⟩
    else if s.changes platform label runId = true then
      (owned id runId).map fun own => { own with alone := false }
    else owned id runId

/-- The system with what its calls own. -/
structure Watched where
  sys : Sys
  owned : Owned

def Watched.step (platform : Platform) (x : Watched) (label : Label) : Watched :=
  ⟨x.sys.step platform label, x.sys.owned platform label x.owned⟩

/-- An empty database, in which nothing is owned. -/
def Watched.empty : Watched := ⟨.empty, fun _ _ => none⟩

def Watched.run (platform : Platform) (x : Watched) (labels : List Label) : Watched :=
  labels.foldl (Watched.step platform) x

/-- The state and the ownership that a history leads to. -/
abbrev Watched.after (platform : Platform) (labels : List Label) : Watched :=
  Watched.run platform .empty labels

/-! ## Owning a run -/

/-- A run, its task attempt, its task and its execution are stored as they were. -/
structure Untouched (s s' : RuntimeStore) (run : AgentRun) : Prop where
  kept : s'.runs.get? run.id = s.runs.get? run.id
  attempt : s'.domain.attempts.get? run.taskAttemptId = s.domain.attempts.get? run.taskAttemptId
  task : s'.domain.tasks.get? run.taskId = s.domain.tasks.get? run.taskId
  execution : s'.domain.executions.get? run.executionId = s.domain.executions.get? run.executionId

/-- A drive changes its run and the parents of the run only in a step that finds the run at
the version that this drive has last read at its entry or written. -/
def OwnsChanges (platform : Platform) (labels : List Label) : Prop :=
  ∀ before id input, before ++ [.advance id input] <+: labels →
    ∀ call runId run, (Sys.after platform before).call? id = some call →
      call.drives? = some runId →
      (Sys.after platform before).store.runs.get? runId = some run →
      ((Watched.after platform before).owned id runId).map Ownership.version = some run.version ∨
        Untouched (Sys.after platform before).store
          (Sys.after platform (before ++ [.advance id input])).store run

/-- A transaction would return. -/
def Sys.passes (s : Sys) (checks : RuntimeTxn Unit) : Bool :=
  (World.answer (checks s.shared.world)).isOk

/-- No one else has changed the run since the call has read it at the entry of its drive or
has last written it. -/
def Watched.alone (x : Watched) (id : Nat) (runId : AgentRunId) : Bool :=
  (x.owned id runId).any Ownership.alone

/-- A claim of an iteration that passes its checks, and a failure of a run that has not ended,
are taken in a state in which no one else has changed the run. -/
def Watched.undisturbed (platform : Platform) (x : Watched) : Label → Bool
  | .advance id input =>
      match x.sys.call? id with
      | some call =>
          match call.point, input with
          | .claim loop, .ports _ =>
              !x.sys.passes (claimChecks platform call.host loop.workspaceId loop.runId) ||
                x.alone id loop.runId
          | .failing _ runId _ _, .next =>
              (x.sys.store.runs.get? runId).all fun run =>
                run.status.terminal || x.alone id runId
          | _, _ => true
      | none => true
  | _ => true

/-- Every step of a run is taken in a state in which it passes a guard. -/
def Watched.meets (platform : Platform) (guard : Watched → Label → Bool) :
    Watched → List Label → Bool
  | _, [] => true
  | x, label :: rest => guard x label && Watched.meets platform guard (x.step platform label) rest

/-! ## Ownership along a run -/

section Owning

variable {platform : Platform}

theorem Watched.run_sys (x : Watched) (labels : List Label) :
    (Watched.run platform x labels).sys = Sys.run platform x.sys labels := by
  induction labels generalizing x with
  | nil => rfl
  | cons label rest ih => exact ih (x.step platform label)

theorem Watched.after_concat (labels : List Label) (label : Label) :
    Watched.after platform (labels ++ [label]) =
      (Watched.after platform labels).step platform label :=
  List.foldl_append

/-- An ownership that no one else has disturbed is of the stored version. -/
def Watched.Fresh (x : Watched) : Prop :=
  ∀ id runId own, x.owned id runId = some own → own.alone = true →
    x.sys.store.versionOf runId = some own.version

theorem Watched.Fresh.step {x : Watched} (fresh : x.Fresh) (label : Label) :
    (x.step platform label).Fresh := by
  intro id runId own held alone
  replace held : x.sys.owned platform label x.owned id runId = some own := held
  show (x.sys.step platform label).store.versionOf runId = some own.version
  unfold Sys.owned at held
  split at held
  · obtain ⟨version, stored, rfl⟩ := Option.map_eq_some_iff.mp held
    exact stored
  · split at held
    · obtain ⟨old, -, rfl⟩ := Option.map_eq_some_iff.mp held
      cases alone
    · next unchanged =>
        have same := of_decide_eq_false (Bool.eq_false_iff.mpr unchanged)
        rw [not_not.mp same]
        exact fresh id runId own held alone

/-- The version that a call in a drive compares with is the one that it owns. -/
def Tied (owned : Owned) (call : Call) : Prop :=
  ∀ runId id version, call.drives? = some runId → call.point.compares? = some (id, version) →
    runId = id ∧ (owned call.id runId).map Ownership.version = some version

/-- A step that does not renew an ownership keeps its version. -/
theorem owned_other {s : Sys} {label : Label} {owned : Owned} {id : Nat} {runId : AgentRunId}
    (other : s.renews platform label id runId = false) :
    (s.owned platform label owned id runId).map Ownership.version =
      (owned id runId).map Ownership.version := by
  unfold Sys.owned
  rw [other, if_neg Bool.false_ne_true]
  split
  · cases owned id runId <;> rfl
  · rfl

theorem Sys.renews_eq_true {s : Sys} {label : Label} {id : Nat} {runId : AgentRunId}
    (h : s.renews platform label id runId = true) : ∃ input, label = .advance id input := by
  cases label with
  | advance mover input =>
      unfold Sys.renews at h
      dsimp only at h
      split at h
      · have same : mover = id := by simp_all
        exact ⟨input, by rw [same]⟩
      · cases h
  | _ => cases h

theorem Sys.renews_advance {s : Sys} {id : Nat} {input : Input} {call : Call}
    (found : s.call? id = some call) (runId : AgentRunId) :
    s.renews platform (.advance id input) id runId =
      (Decidable.decide (call.drives? = some runId) &&
        (call.enters input || s.changes platform (.advance id input) runId)) := by
  unfold Sys.renews
  dsimp only
  rw [found]
  simp

/-- A call that carries a version is past its entry. -/
theorem enters_of_compares {call : Call} {input : Input} {id : AgentRunId} {version : Version}
    (compares : call.point.compares? = some (id, version)) : call.enters input = false := by
  obtain ⟨callId, host, point, frames⟩ := call
  cases point with
  | driveEntry => cases compares
  | _ => rfl

/-- A step that leaves the runs alone changes none. -/
theorem changes_of_runs {s : Sys} {label : Label} {runId : AgentRunId}
    (runs : (s.step platform label).store.runs = s.store.runs) :
    s.changes platform label runId = false := by
  apply decide_eq_false
  unfold RuntimeStore.versionOf
  rw [runs]
  exact not_not_intro rfl

/-- A drive that has saved its run owns the version that it has saved. -/
theorem owned_written {s : Sys} {owned : Owned} {id : Nat} {input : Input} {call : Call}
    {runId : AgentRunId} {previous updated : AgentRun} (found : s.call? id = some call)
    (drives : call.drives? = some runId) (stored : s.store.runs.get? runId = some previous)
    (saved : (s.step platform (.advance id input)).store.runs = s.store.runs.put updated)
    (same : updated.id = runId) (succeeds : updated.version = previous.version.next) :
    (s.owned platform (.advance id input) owned id runId).map Ownership.version =
      some updated.version := by
  have after : (s.step platform (.advance id input)).store.versionOf runId =
      some updated.version := by
    have put : (s.store.runs.put updated).get? updated.id = some updated :=
      Registry.get?_put_self _ _
    unfold RuntimeStore.versionOf
    rw [saved, ← same, put, Option.map_some]
  have before : s.store.versionOf runId = some previous.version := by
    unfold RuntimeStore.versionOf
    rw [stored, Option.map_some]
  have changes : s.changes platform (.advance id input) runId = true := by
    apply decide_eq_true
    rw [after, before, succeeds]
    intro equal
    have value := congrArg Version.value (Option.some.inj equal)
    exact Nat.succ_ne_self _ value
  have renewed : s.renews platform (.advance id input) id runId = true := by
    rw [Sys.renews_advance found, changes, Bool.or_true, Bool.and_true]
    exact decide_eq_true drives
  unfold Sys.owned
  rw [if_pos renewed, after]
  rfl

theorem tied_enter (owned : Owned) (host : Host) (id : Nat) (request : Request) :
    Tied owned ⟨id, host, request.enter.1, request.enter.2⟩ := by
  intro runId id version drives compares
  cases request with
  | drive _ _ _ => cases compares
  | invoke _ _ _ _ => cases drives
  | resumeIntent _ _ _ _ => cases compares
  | resumeApproval _ _ _ _ => cases compares
  | reconcile _ _ _ _ => cases compares

theorem Tied.step {x : Watched} (numbered : x.sys.Numbered)
    (tied : ∀ call ∈ x.sys.calls, Tied x.owned call) (label : Label) :
    ∀ call ∈ (x.step platform label).sys.calls, Tied (x.step platform label).owned call := by
  intro call mem
  cases call_origin numbered label mem with
  | stayed present still =>
      intro runId id version drives compares
      obtain ⟨own, held⟩ := tied call present runId id version drives compares
      refine ⟨own, ?_⟩
      have other : x.sys.renews platform label call.id runId = false := by
        apply Bool.eq_false_iff.mpr
        intro renews
        obtain ⟨input, now⟩ := Sys.renews_eq_true renews
        exact still input now
      exact (owned_other other).trans held
  | opened host request now new =>
      rw [new]
      exact tied_enter _ host x.sys.issued request
  | moved moving input next now found leads new =>
      rw [new, now]
      intro runId id version drives compares
      obtain ⟨present, -⟩ := Sys.call?_eq_some found
      obtain ⟨drove, origin⟩ := advance_compares input next runId id version leads drives compares
      have store : (x.sys.step platform (.advance moving.id input)).store =
          (x.sys.shared.advance platform moving input).shared.world.store := by
        rw [Sys.step_advance found]
        rfl
      rw [← store] at origin
      cases origin with
      | kept compared runs =>
          obtain ⟨own, held⟩ := tied moving present runId id version drove compared
          refine ⟨own, ?_⟩
          have other : x.sys.renews platform (.advance moving.id input) moving.id runId =
              false := by
            rw [Sys.renews_advance found, enters_of_compares compared, changes_of_runs runs]
            exact Bool.and_false _
          exact (owned_other other).trans held
      | written own previous updated stored saved same writes succeeds =>
          have own : runId = id := by
            rcases own with own | ⟨v, compared⟩
            · exact own
            · exact (tied moving present runId id v drove compared).1
          refine ⟨own, ?_⟩
          rw [← own] at stored same
          rw [← writes]
          exact owned_written found drove stored saved same succeeds

/-- What holds of every reachable state and what is owned in it. -/
structure Watched.Sound (x : Watched) : Prop where
  numbered : x.sys.Numbered
  fresh : x.Fresh
  tied : ∀ call ∈ x.sys.calls, Tied x.owned call

theorem Watched.sound_after (platform : Platform) (labels : List Label) :
    (Watched.after platform labels).Sound := by
  induction labels using List.reverseRecOn with
  | nil =>
      refine ⟨Sys.Numbered.empty, ?_, fun call mem => (List.not_mem_nil mem).elim⟩
      intro id runId own held
      cases held
  | append_singleton labels label ih =>
      rw [Watched.after_concat]
      exact ⟨ih.numbered.step platform label, ih.fresh.step label,
        Tied.step ih.numbered ih.tied label⟩

theorem Watched.meets_at {guard : Watched → Label → Bool} {labels before : List Label}
    {label : Label} {x : Watched} (met : Watched.meets platform guard x labels = true)
    (reached : before ++ [label] <+: labels) :
    guard (Watched.run platform x before) label = true := by
  induction labels generalizing x before with
  | nil => exact absurd (List.prefix_nil.mp reached) (by simp)
  | cons first rest ih =>
      obtain ⟨here, later⟩ := Bool.and_eq_true_iff.mp met
      cases before with
      | nil =>
          obtain ⟨rfl, -⟩ := List.cons_prefix_cons.mp reached
          exact here
      | cons other before =>
          obtain ⟨rfl, inner⟩ := List.cons_prefix_cons.mp reached
          show guard (Watched.run platform (x.step platform other) before) label = true
          exact ih later inner

/-- A call that no one else has disturbed owns the stored version. -/
theorem Watched.Fresh.held {x : Watched} (fresh : x.Fresh) {id : Nat} {runId : AgentRunId}
    {run : AgentRun} (alone : x.alone id runId = true)
    (found : x.sys.store.runs.get? runId = some run) :
    (x.owned id runId).map Ownership.version = some run.version := by
  obtain ⟨own, held, alone⟩ := (Option.any_eq_true _ _).mp alone
  have version := fresh id runId own held alone
  unfold RuntimeStore.versionOf at version
  rw [found] at version
  rw [held]
  exact version.symm

/-- A claim and a failure are steps of a drive of the run that they name. -/
theorem drives_point {call : Call} {runId : AgentRunId} (drives : call.drives? = some runId) :
    (∀ loop, call.point = .claim loop → runId = loop.runId) ∧
      ∀ workspaceId failing code cancelled,
        call.point = .failing workspaceId failing code cancelled → runId = failing := by
  obtain ⟨id, host, point, frames⟩ := call
  constructor
  · rintro loop rfl
    exact (Option.some.inj drives).symm
  · rintro workspaceId failing code cancelled rfl
    exact (Option.some.inj drives).symm

/-- When no claim and no failure finds a change of someone else, drives change their runs and
the parents of the runs only at the versions that they own. -/
theorem drive_ownership (platform : Platform) (labels : List Label)
    (met : Watched.meets platform (Watched.undisturbed platform) .empty labels = true) :
    OwnsChanges platform labels := by
  intro before id input reached call runId run found drives present
  have guard := Watched.meets_at met reached
  have sound := Watched.sound_after platform before
  have same : (Watched.after platform before).sys = Sys.after platform before :=
    Watched.run_sys .empty before
  rw [← same] at found present ⊢
  rw [Sys.after_concat, ← same]
  obtain ⟨mem, named⟩ := Sys.call?_eq_some found
  have store : ((Watched.after platform before).sys.step platform (.advance id input)).store =
      ((Watched.after platform before).sys.shared.advance platform call
        input).shared.world.store := by
    rw [Sys.step_advance found]
    rfl
  rw [store]
  unfold Watched.undisturbed at guard
  dsimp only at guard
  rw [show (Watched.run platform .empty before).sys.call? id = some call from found] at guard
  dsimp only at guard
  -- Only a claim and a failure need the guard; the others compare the version themselves.
  cases advance_drive platform (Watched.after platform before).sys.shared input drives with
  | same runs domain =>
      right
      refine ⟨by rw [runs], by rw [domain], by rw [domain], by rw [domain]⟩
  | claimed loop answers point now passes =>
      left
      have own := (drives_point drives).1 loop point
      rw [point, now] at guard
      rw [own] at present ⊢
      rcases Bool.or_eq_true_iff.mp guard with denied | alone
      · have passed : (Watched.run platform .empty before).sys.passes (claimChecks platform
            call.host loop.workspaceId loop.runId) = true := passes
        rw [passed] at denied
        cases denied
      · exact sound.fresh.held alone present
  | failed workspaceId failing code cancelled point now other found' active =>
      left
      have own := (drives_point drives).2 workspaceId failing code cancelled point
      rw [point, now] at guard
      rw [own] at present ⊢
      dsimp only at guard
      rw [show (Watched.run platform .empty before).sys.store.runs.get? failing = some run
        from present] at guard
      obtain rfl := Option.some.inj (present.symm.trans found')
      rcases Bool.or_eq_true_iff.mp guard with ended | alone
      · rw [active] at ended
        cases ended
      · exact sound.fresh.held alone present
  | compared id' run' found' compares =>
      left
      obtain ⟨rfl, held⟩ := sound.tied call mem runId id' run'.version drives compares
      obtain rfl := Option.some.inj (present.symm.trans found')
      rw [← named]
      exact held

end Owning

/-! ### Two drives of one run -/

/-- Two drives enter at the same version, one of them claims, and the claim of the other one
raises. -/
def contested : List Label := startedRun ++ [
  .open sampleHost (.drive sampleWorkspace sampleRun (changed 0)),
  .open sampleHost (.drive sampleWorkspace sampleRun (changed 0)),
  .advance 0 .next,
  .advance 1 .next,
  .advance 0 (.ports noAnswers),
  .advance 1 (.ports noAnswers)]

/-- One drive has claimed when the other one enters; the provider of the first one fails. -/
def uncontested : List Label := startedRun ++ [
  .open sampleHost (.drive sampleWorkspace sampleRun (changed 0)),
  .open sampleHost (.drive sampleWorkspace sampleRun (changed 0)),
  .advance 0 .next,
  .advance 0 (.ports noAnswers),
  .advance 1 .next,
  .advance 0 (.model (.error .timeout) noAnswers),
  .advance 0 .next]

/-- The drive that owns the run ends it. -/
theorem uncontested_owned :
    (((Sys.after numberedPlatform uncontested).store.runs.get? sampleRun).map fun run =>
      run.status) = some .failed ∧ OwnsChanges numberedPlatform uncontested :=
  ⟨by decide +kernel, drive_ownership numberedPlatform uncontested (by decide +kernel)⟩

/-- The drive that has not claimed fails the run, which the other one has changed since both
entered. -/
theorem contested_failed : ¬OwnsChanges numberedPlatform (contested ++ [.advance 1 .next]) := by
  intro owns
  obtain ⟨call, found, drives⟩ := Option.map_eq_some_iff.mp
    (show ((Sys.after numberedPlatform contested).call? 1).map Call.drives? =
      some (some sampleRun) by decide +kernel)
  obtain ⟨run, present, facts⟩ := Option.map_eq_some_iff.mp
    (show ((Sys.after numberedPlatform contested).store.runs.get? sampleRun).map
      (fun run => (run.version, run.status)) = some (changed 1, .running) by decide +kernel)
  have held : ((Watched.after numberedPlatform contested).owned 1 sampleRun).map
      Ownership.version = some (changed 0) := by decide +kernel
  have ended : ((Sys.after numberedPlatform (contested ++ [.advance 1 .next])).store.runs.get?
      sampleRun).map (fun run => run.status) = some .failed := by decide +kernel
  obtain ⟨version, status⟩ := Prod.mk.inj facts
  rcases owns contested 1 .next List.prefix_rfl call sampleRun run found drives present with
    same | untouched
  · rw [held, version] at same
    exact absurd (Option.some.inj same) (by decide)
  · have key : AgentRun.key run = sampleRun := Registry.key_of_get? present
    have kept := untouched.kept
    rw [show run.id = sampleRun from key, present] at kept
    rw [kept, Option.map_some, status] at ended
    cases ended

end AgentCompanyOS.Runtime
