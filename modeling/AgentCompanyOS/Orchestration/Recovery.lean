import AgentCompanyOS.Runtime.Release
import AgentCompanyOS.Orchestration.Writes
import AgentCompanyOS.Orchestration.Classification

/-!
# What a recovery classification covers

The cases of a classification have distinct subjects, each a record of its workspace, and
nothing unfinished is left out: the lineage of the runtime store keeps the five scans
apart. The outcome `not_executed` is sound for runs, attempts and intents; the execution
of a run takes its outcome from that run alone, whatever earlier runs of it have called.
-/

set_option autoImplicit false

namespace AgentCompanyOS.Orchestration

open Foundation Foundation.Txn Domain AgentCompanyOS.Runtime

/-! ## Sorted cases -/

section Sorted

variable {raw : List ClassifiedCase}

theorem nodup_sortedCases (keys : (raw.map ClassifiedCase.key).Nodup) :
    ((sortedCases raw).map ClassifiedCase.key).Nodup := by
  have sorted : (sortedCases raw).Perm raw := by
    refine (List.perm_insertionSort _ _).trans ?_
    rw [(List.Nodup.of_map _ keys).dedup]
  exact (sorted.map _).nodup_iff.mpr keys

theorem mem_sortedCases {c : ClassifiedCase} : c ∈ sortedCases raw ↔ c ∈ raw := by
  rw [sortedCases, List.mem_insertionSort, List.mem_dedup]

end Sorted

/-! ## Subjects -/

/-- The record that a case names exists in the workspace. -/
def SubjectIn (s : OrchestrationStore) (workspaceId : WorkspaceId) :
    RecoverySubject × PyStr → Prop
  | (.agentRun, id) => ∃ run ∈ s.runtime.runs.values,
      run.id.value = id ∧ run.workspaceId = workspaceId
  | (.taskAttempt, id) => ∃ attempt ∈ s.runtime.domain.attempts.values,
      attempt.id.value = id ∧ attempt.workspaceId = workspaceId
  | (.execution, id) => ∃ execution ∈ s.runtime.domain.executions.values,
      execution.id.value = id ∧ execution.workspaceId = workspaceId
  | (.actionIntent, id) => ∃ record ∈ s.runtime.governed.values,
      record.intent.id.value = id ∧ record.intent.workspaceId = workspaceId
  | (.toolInvocation, id) => ∃ i ∈ s.runtime.toolInvocations.values,
      i.id.value = id ∧ i.workspaceId = workspaceId
  | (.orchestrationRun, id) => ∃ run ∈ s.runs.values,
      run.id.value = id ∧ run.workspaceId = workspaceId

section Findings

variable {s : OrchestrationStore} {attached : Bool} {workspaceId : WorkspaceId}

/-! ## The keys of the findings -/

/-- The subject of a finding. -/
abbrev Finding.subject (f : Finding) : RecoverySubject × PyStr := f.2.1

theorem mem_runFindings {f : Finding} {run : AgentRun} :
    f ∈ runFindings s.runtime workspaceId run ↔ activeRun run = true ∧
      (f = (workspaceId, (.agentRun, run.id.value), runOutcome (callsOf s.runtime run.id)) ∨
        f = (workspaceId, (.taskAttempt, run.taskAttemptId.value),
          runOutcome (callsOf s.runtime run.id)) ∨
        f = (workspaceId, (.execution, run.executionId.value),
          runOutcome (callsOf s.runtime run.id))) := by
  unfold runFindings
  split <;> simp_all

theorem mem_intentFindings {f : Finding} {record : GovernedAction} :
    f ∈ intentFindings s.runtime workspaceId record ↔ record.invocationId = none ∧
      f = (workspaceId, (.actionIntent, record.intent.id.value),
        intentOutcome (s.runtime.held workspaceId record.intent.id)) := by
  unfold intentFindings
  split <;> simp_all

/-- A call has at most one case. -/
theorem callCase_key {run : AgentRun} {receipts : List ToolReceipt} {i : ToolInvocation}
    {c : ClassifiedCase} (mem : c ∈ callCase workspaceId run receipts i) :
    c.workspaceId = workspaceId ∧ c.key = (.toolInvocation, i.id.value) ∧
      c.outcome ≠ .notExecuted := by
  unfold callCase at mem
  cases answered : receiptOf receipts i with
  | none =>
      rw [answered] at mem
      obtain rfl := List.mem_singleton.mp mem
      exact ⟨rfl, rfl, by simp⟩
  | some receipt =>
      rw [answered] at mem
      dsimp only at mem
      split at mem
      · obtain rfl := List.mem_singleton.mp mem
        exact ⟨rfl, rfl, by simp⟩
      · split at mem
        · obtain rfl := List.mem_singleton.mp mem
          refine ⟨rfl, rfl, ?_⟩
          dsimp only
          split <;> simp
        · cases mem

theorem length_callCase_le (run : AgentRun) (receipts : List ToolReceipt) (i : ToolInvocation) :
    (callCase workspaceId run receipts i).length ≤ 1 := by
  unfold callCase
  cases receiptOf receipts i with
  | none => exact Nat.le_refl 1
  | some receipt =>
      dsimp only
      split
      · exact Nat.le_refl 1
      · split
        · exact Nat.le_refl 1
        · exact Nat.zero_le 1

theorem mem_callFindings {f : Finding} {run : AgentRun}
    (mem : f ∈ callFindings s.runtime workspaceId run) :
    ∃ i ∈ callsOf s.runtime run.id, f.1 = workspaceId ∧
      f.2.1 = (.toolInvocation, i.id.value) ∧ f.2.2 ≠ .notExecuted := by
  obtain ⟨c, found, rfl⟩ := List.mem_map.mp mem
  obtain ⟨i, call, found⟩ := List.mem_flatMap.mp found
  obtain ⟨here, key, outcome⟩ := callCase_key found
  exact ⟨i, call, here, key, outcome⟩

/-- Visits that share no subject find distinct subjects. -/
theorem nodup_subjects {α : Type} {xs : List α} {f : α → List Finding} (distinct : xs.Nodup)
    (each : ∀ x ∈ xs, ((f x).map Finding.subject).Nodup)
    (apart : ∀ x ∈ xs, ∀ y ∈ xs, ∀ a ∈ f x, ∀ b ∈ f y, a.subject = b.subject → x = y) :
    ((xs.flatMap f).map Finding.subject).Nodup := by
  rw [List.map_flatMap, List.nodup_flatMap]
  refine ⟨each, distinct.imp_of_mem ?_⟩
  intro x y memX memY different key keyX keyY
  obtain ⟨a, memA, rfl⟩ := List.mem_map.mp keyX
  obtain ⟨b, memB, same⟩ := List.mem_map.mp keyY
  exact different (apart x memX y memY a memA b memB same.symm)

theorem activeRun_open {run : AgentRun} (active : activeRun run = true) :
    run.status.terminal = false := by
  unfold activeRun at active
  unfold AgentRunStatus.terminal
  cases status : run.status <;> simp_all

/-- A value tells the identifiers of one kind apart. -/
theorem subject_inj {kind : IdKind} {t : RecoverySubject} {a b : OpaqueId kind}
    (same : (t, a.value) = (t, b.value)) : a = b :=
  OpaqueId.ext_value (Prod.mk.inj same).2

theorem nodup_runFindings (traced : RunsApart s.runtime) :
    (((runsIn s.runtime workspaceId).flatMap (runFindings s.runtime workspaceId)).map
      Finding.subject).Nodup := by
  refine nodup_subjects ((Registry.nodup_values s.runtime.runs).filter _) ?_ ?_
  · intro run _
    unfold runFindings
    split
    · simp [Finding.subject]
    · exact List.nodup_nil
  · intro x memX y memY a memA b memB same
    have storedX := (List.mem_filter.mp memX).1
    have storedY := (List.mem_filter.mp memY).1
    obtain ⟨activeX, whatX⟩ := mem_runFindings.mp memA
    obtain ⟨activeY, whatY⟩ := mem_runFindings.mp memB
    have open' := traced.active x storedX y storedY
    -- The kinds of the two subjects agree, so the two runs share an identity or a parent.
    rcases whatX with rfl | rfl | rfl <;> rcases whatY with rfl | rfl | rfl <;>
      simp only [Finding.subject, Prod.mk.injEq, reduceCtorEq, false_and] at same
    · exact Registry.eq_of_key storedX storedY (OpaqueId.ext_value same.2)
    · exact traced.alone x storedX y storedY (OpaqueId.ext_value same.2)
    · exact open' (OpaqueId.ext_value same.2) (activeRun_open activeX) (activeRun_open activeY)

theorem nodup_intentFindings :
    (((recordsIn s.runtime workspaceId).flatMap (intentFindings s.runtime workspaceId)).map
      Finding.subject).Nodup := by
  refine nodup_subjects ((Registry.nodup_values s.runtime.governed).filter _) ?_ ?_
  · intro record _
    unfold intentFindings
    split
    · simp
    · exact List.nodup_nil
  · intro x memX y memY a memA b memB same
    obtain ⟨-, rfl⟩ := mem_intentFindings.mp memA
    obtain ⟨-, rfl⟩ := mem_intentFindings.mp memB
    exact Registry.eq_of_key (List.mem_filter.mp memX).1 (List.mem_filter.mp memY).1
      (subject_inj same)

theorem nodup_callFindings :
    (((runsIn s.runtime workspaceId).flatMap (callFindings s.runtime workspaceId)).map
      Finding.subject).Nodup := by
  have same : ∀ {run run' : AgentRun} {i j : ToolInvocation}, i ∈ callsOf s.runtime run.id →
      j ∈ callsOf s.runtime run'.id → i.id = j.id → i = j :=
    fun memI memJ => Registry.eq_of_key (List.mem_filter.mp memI).1 (List.mem_filter.mp memJ).1
  refine nodup_subjects ((Registry.nodup_values s.runtime.runs).filter _) ?_ ?_
  · intro run _
    unfold callFindings
    rw [List.map_map, List.map_flatMap, List.nodup_flatMap]
    refine ⟨fun i mem => ?_, ?_⟩
    · refine List.nodup_iff_sublist.mpr ?_
      intro key twice
      have := twice.length_le
      rw [List.length_map] at this
      have : (callCase workspaceId run (receiptsOf s.runtime run.id) i).length ≤ 1 :=
        length_callCase_le run _ i
      simp at *
      omega
    · refine ((Registry.nodup_values s.runtime.toolInvocations).filter _).imp_of_mem ?_
      intro i j memI memJ different key keyI keyJ
      obtain ⟨a, memA, rfl⟩ := List.mem_map.mp keyI
      obtain ⟨b, memB, key⟩ := List.mem_map.mp keyJ
      have keys : b.key = a.key := key
      rw [(callCase_key memA).2.1, (callCase_key memB).2.1] at keys
      exact different (same memI memJ (subject_inj keys.symm))
  · intro x memX y memY a memA b memB key
    obtain ⟨i, callI, -, keyI, -⟩ := mem_callFindings memA
    obtain ⟨j, callJ, -, keyJ, -⟩ := mem_callFindings memB
    have keys : ((RecoverySubject.toolInvocation, i.id.value) : RecoverySubject × PyStr) =
        (.toolInvocation, j.id.value) := keyI.symm.trans (key.trans keyJ)
    obtain rfl := same callI callJ (subject_inj keys)
    have runs : x.id = y.id := (of_decide_eq_true (List.mem_filter.mp callI).2).symm.trans
      (of_decide_eq_true (List.mem_filter.mp callJ).2)
    exact Registry.eq_of_key (List.mem_filter.mp memX).1 (List.mem_filter.mp memY).1 runs

/-- The subject of what the scans find, by the scan. -/
theorem mem_scannedFindings {f : Finding} :
    f ∈ scannedFindings s.runtime workspaceId ↔
      (∃ run ∈ runsIn s.runtime workspaceId, f ∈ runFindings s.runtime workspaceId run) ∨
      (∃ record ∈ recordsIn s.runtime workspaceId,
        f ∈ intentFindings s.runtime workspaceId record) ∨
      ∃ run ∈ runsIn s.runtime workspaceId, f ∈ callFindings s.runtime workspaceId run := by
  simp only [scannedFindings, List.mem_append, List.mem_flatMap, or_assoc]

/-- The scans find each subject once. -/
theorem nodup_scannedFindings (traced : RunsApart s.runtime) :
    ((scannedFindings s.runtime workspaceId).map Finding.subject).Nodup := by
  -- The kind of a subject tells the scans apart.
  have runs : ∀ k ∈ ((runsIn s.runtime workspaceId).flatMap
      (runFindings s.runtime workspaceId)).map Finding.subject,
      k.1 = .agentRun ∨ k.1 = .taskAttempt ∨ k.1 = .execution := by
    intro k mem
    obtain ⟨f, found, rfl⟩ := List.mem_map.mp mem
    obtain ⟨run, -, found⟩ := List.mem_flatMap.mp found
    obtain ⟨-, rfl | rfl | rfl⟩ := mem_runFindings.mp found <;> simp
  have intents : ∀ k ∈ ((recordsIn s.runtime workspaceId).flatMap
      (intentFindings s.runtime workspaceId)).map Finding.subject, k.1 = .actionIntent := by
    intro k mem
    obtain ⟨f, found, rfl⟩ := List.mem_map.mp mem
    obtain ⟨record, -, found⟩ := List.mem_flatMap.mp found
    obtain ⟨-, rfl⟩ := mem_intentFindings.mp found
    rfl
  have calls : ∀ k ∈ ((runsIn s.runtime workspaceId).flatMap
      (callFindings s.runtime workspaceId)).map Finding.subject, k.1 = .toolInvocation := by
    intro k mem
    obtain ⟨f, found, rfl⟩ := List.mem_map.mp mem
    obtain ⟨run, -, found⟩ := List.mem_flatMap.mp found
    obtain ⟨i, -, -, key, -⟩ := mem_callFindings found
    exact congrArg Prod.fst key
  simp only [scannedFindings, List.map_append]
  refine List.Nodup.append (List.Nodup.append (nodup_runFindings traced) nodup_intentFindings ?_)
    nodup_callFindings ?_
  · intro k memRun memIntent
    have kind := intents k memIntent
    rcases runs k memRun with other | other | other <;> rw [other] at kind <;> cases kind
  · intro k mem memCall
    have kind := calls k memCall
    rcases List.mem_append.mp mem with memRun | memIntent
    · rcases runs k memRun with other | other | other <;> rw [other] at kind <;> cases kind
    · rw [intents k memIntent] at kind
      cases kind

theorem mem_gapFindings {f : Finding} {represented : List (RecoverySubject × PyStr)}
    {parent : (RecoverySubject × PyStr) × PyStr} :
    f ∈ gapFindings workspaceId represented parent ↔
      f = (workspaceId, parent.1, .outcomeUnknown) ∧ parent.1 ∉ represented ∧
        parent.2 ∈ openValues := by
  unfold gapFindings
  split <;> simp_all

theorem mem_parentsIn {parent : (RecoverySubject × PyStr) × PyStr} :
    parent ∈ parentsIn s attached workspaceId ↔
      (∃ e ∈ s.runtime.domain.executions.values, e.workspaceId = workspaceId ∧
        parent = ((.execution, e.id.value), e.status.value.val)) ∨
      (∃ a ∈ s.runtime.domain.attempts.values, a.workspaceId = workspaceId ∧
        parent = ((.taskAttempt, a.id.value), a.status.value.val)) ∨
      (attached = true ∧ ∃ r ∈ s.runs.values, r.workspaceId = workspaceId ∧
        parent = ((.orchestrationRun, r.id.value), r.status.value)) := by
  cases attached <;>
    simp [parentsIn, List.mem_append, List.mem_map, List.mem_filter, and_assoc, eq_comm]

/-- The parents are one each. -/
theorem nodup_parentsIn : ((parentsIn s attached workspaceId).map Prod.fst).Nodup := by
  have keys : ∀ {υ : Type} {k : IdKind} {key : υ → OpaqueId k} (d : Registry key) (p : υ → Bool)
      (t : RecoverySubject) (value : υ → PyStr),
      (((d.values.filter p).map fun x => ((t, (key x).value), value x)).map Prod.fst).Nodup := by
    intro υ k key d p t value
    rw [List.map_map]
    refine ((Registry.nodup_values d).filter p).map_on ?_
    intro x memX y memY same
    exact Registry.eq_of_key (List.mem_filter.mp memX).1 (List.mem_filter.mp memY).1
      (subject_inj same)
  have kinds : ∀ {υ : Type} (xs : List υ) (t : RecoverySubject) (value : υ → PyStr × PyStr),
      ∀ k ∈ (xs.map fun x => ((t, (value x).1), (value x).2)).map Prod.fst, k.1 = t := by
    intro υ xs t value k mem
    obtain ⟨p, found, rfl⟩ := List.mem_map.mp mem
    obtain ⟨x, -, rfl⟩ := List.mem_map.mp found
    rfl
  unfold parentsIn
  rw [List.map_append, List.map_append]
  refine List.Nodup.append (List.Nodup.append (keys _ _ .execution _) (keys _ _ .taskAttempt _) ?_)
    ?_ ?_
  · intro k memE memA
    have kind := kinds _ .execution (fun e : Execution => (e.id.value, e.status.value.val)) k memE
    rw [kinds _ .taskAttempt (fun a : TaskAttempt => (a.id.value, a.status.value.val)) k memA]
      at kind
    cases kind
  · split
    · exact keys s.runs _ .orchestrationRun _
    · exact List.nodup_nil
  · intro k mem memR
    have kind := kinds _ .orchestrationRun
      (fun r : OrchestrationRun => (r.id.value, r.status.value)) k memR
    rcases List.mem_append.mp mem with memE | memA
    · rw [kinds _ .execution (fun e : Execution => (e.id.value, e.status.value.val)) k memE]
        at kind
      cases kind
    · rw [kinds _ .taskAttempt (fun a : TaskAttempt => (a.id.value, a.status.value.val)) k memA]
        at kind
      cases kind

/-- A classification finds each subject once. -/
theorem nodup_findings (traced : RunsApart s.runtime) :
    ((findings s attached workspaceId).map Finding.subject).Nodup := by
  unfold findings
  rw [List.map_append]
  refine (nodup_scannedFindings traced).append ?_ ?_
  · have distinct : (parentsIn s attached workspaceId).Nodup := .of_map _ nodup_parentsIn
    refine nodup_subjects distinct ?_ ?_
    · intro parent _
      unfold gapFindings
      split
      · simp
      · exact List.nodup_nil
    · intro x memX y memY a memA b memB same
      obtain ⟨rfl, -⟩ := mem_gapFindings.mp memA
      obtain ⟨rfl, -⟩ := mem_gapFindings.mp memB
      exact List.inj_on_of_nodup_map nodup_parentsIn memX memY same
  · intro k memScan memGap
    obtain ⟨f, found, rfl⟩ := List.mem_map.mp memGap
    obtain ⟨parent, -, found⟩ := List.mem_flatMap.mp found
    obtain ⟨rfl, absent, -⟩ := mem_gapFindings.mp found
    exact absent memScan

/-! ## The subjects exist -/

theorem runsIn_subject {run : AgentRun} (mem : run ∈ runsIn s.runtime workspaceId) :
    run ∈ s.runtime.runs.values ∧ run.workspaceId = workspaceId :=
  ⟨(List.mem_filter.mp mem).1, of_decide_eq_true (List.mem_filter.mp mem).2⟩

/-- The parents of a run are in its workspace. -/
theorem parents_subject (traced : Traced s.runtime) {run : AgentRun}
    (mem : run ∈ runsIn s.runtime workspaceId) :
    SubjectIn s workspaceId (.taskAttempt, run.taskAttemptId.value) ∧
      SubjectIn s workspaceId (.execution, run.executionId.value) := by
  obtain ⟨stored, here⟩ := runsIn_subject mem
  obtain ⟨attempt, found, workspace, execution⟩ := traced.runs.parents run stored
  have attemptMem := Registry.mem_values_of_get? found
  have attemptKey : TaskAttempt.id attempt = run.taskAttemptId := Registry.key_of_get? found
  obtain ⟨_, parent, -, foundE, -, scope, -⟩ := traced.linked.attempt attempt attemptMem
  have parentKey : Execution.id parent = attempt.executionId := Registry.key_of_get? foundE
  refine ⟨⟨attempt, attemptMem, congrArg _ attemptKey, workspace.trans here⟩,
    parent, Registry.mem_values_of_get? foundE, ?_, scope.trans (workspace.trans here)⟩
  rw [parentKey, execution]

/-- The calls of a run are in its workspace. -/
theorem call_subject (traced : Traced s.runtime) {run : AgentRun} {i : ToolInvocation}
    (mem : run ∈ runsIn s.runtime workspaceId) (call : i ∈ callsOf s.runtime run.id) :
    SubjectIn s workspaceId (.toolInvocation, i.id.value) := by
  obtain ⟨stored, here⟩ := runsIn_subject mem
  obtain ⟨storedCall, own⟩ := List.mem_filter.mp call
  obtain ⟨parent, of⟩ := traced.calls i storedCall
  have found := Registry.get?_of_mem_values stored
  rw [show AgentRun.key run = i.runId from (of_decide_eq_true own).symm, of.stored] at found
  obtain rfl := Option.some.inj found
  exact ⟨i, storedCall, rfl, of.workspace.trans here⟩

/-- Every finding is about a record of the workspace. -/
theorem findings_subject (traced : Traced s.runtime) {f : Finding}
    (mem : f ∈ findings s attached workspaceId) :
    f.1 = workspaceId ∧ SubjectIn s workspaceId f.subject := by
  rcases List.mem_append.mp mem with scan | gap
  · rcases mem_scannedFindings.mp scan with ⟨run, here, mem⟩ | ⟨record, here, mem⟩ |
        ⟨run, here, mem⟩
    · obtain ⟨stored, workspace⟩ := runsIn_subject here
      obtain ⟨attempt, execution⟩ := parents_subject traced here
      obtain ⟨-, rfl | rfl | rfl⟩ := mem_runFindings.mp mem
      · exact ⟨rfl, run, stored, rfl, workspace⟩
      · exact ⟨rfl, attempt⟩
      · exact ⟨rfl, execution⟩
    · obtain ⟨stored, workspace⟩ := List.mem_filter.mp here
      obtain ⟨-, rfl⟩ := mem_intentFindings.mp mem
      exact ⟨rfl, record, stored, rfl, of_decide_eq_true workspace⟩
    · obtain ⟨i, call, workspace, key, -⟩ := mem_callFindings mem
      have subject : f.subject = (.toolInvocation, i.id.value) := key
      exact ⟨workspace, subject ▸ call_subject traced here call⟩
  · obtain ⟨parent, here, mem⟩ := List.mem_flatMap.mp gap
    obtain ⟨rfl, -, -⟩ := mem_gapFindings.mp mem
    rcases mem_parentsIn.mp here with ⟨e, stored, workspace, rfl⟩ | ⟨a, stored, workspace, rfl⟩ |
        ⟨-, r, stored, workspace, rfl⟩
    · exact ⟨rfl, e, stored, rfl, workspace⟩
    · exact ⟨rfl, a, stored, rfl, workspace⟩
    · exact ⟨rfl, r, stored, rfl, workspace⟩

/-! ## Nothing is left out -/

theorem scanned_found {f : Finding} (mem : f ∈ scannedFindings s.runtime workspaceId) :
    f.subject ∈ (findings s attached workspaceId).map Finding.subject :=
  List.mem_map_of_mem (List.mem_append_left _ mem)

/-- A parent that has not ended is found, by a scan or in a gap. -/
theorem parent_found {parent : (RecoverySubject × PyStr) × PyStr}
    (mem : parent ∈ parentsIn s attached workspaceId) (open' : parent.2 ∈ openValues) :
    parent.1 ∈ (findings s attached workspaceId).map Finding.subject := by
  by_cases represented : parent.1 ∈ (scannedFindings s.runtime workspaceId).map Finding.subject
  · obtain ⟨f, found, same⟩ := List.mem_map.mp represented
    exact same ▸ scanned_found found
  · have gap : (workspaceId, parent.1, RecoveryOutcome.outcomeUnknown) ∈
        findings s attached workspaceId :=
      List.mem_append_right _ (List.mem_flatMap.mpr
        ⟨parent, mem, mem_gapFindings.mpr ⟨rfl, represented, open'⟩⟩)
    exact List.mem_map_of_mem (f := Finding.subject) gap

/-- A call whose outcome is not known from a receipt. -/
def Unresolved (s : RuntimeStore) (i : ToolInvocation) : Prop :=
  (∀ r ∈ s.toolReceipts.values, r.invocation.id ≠ i.id) ∨
    ∃ r ∈ s.toolReceipts.values, r.invocation.id = i.id ∧ r.remoteOutcome = .unknown

theorem receiptOf_some {receipts : List ToolReceipt} {i : ToolInvocation} {r : ToolReceipt}
    (found : receiptOf receipts i = some r) : r ∈ receipts ∧ r.invocation.id = i.id := by
  have matched := List.find?_some (p := fun r : ToolReceipt => r.invocation.id = i.id) found
  exact ⟨List.mem_reverse.mp (List.mem_of_find?_eq_some found), of_decide_eq_true matched⟩

theorem callCase_unresolved (agree : ReceiptsAgree s.runtime) {run : AgentRun}
    {i : ToolInvocation} (unresolved : Unresolved s.runtime i) :
    ∃ c ∈ callCase workspaceId run (receiptsOf s.runtime run.id) i,
      c.key = (.toolInvocation, i.id.value) := by
  unfold callCase
  cases answered : receiptOf (receiptsOf s.runtime run.id) i with
  | none => exact ⟨_, List.mem_singleton_self _, rfl⟩
  | some r =>
      obtain ⟨mem, same⟩ := receiptOf_some answered
      have stored := (List.mem_filter.mp mem).1
      have unknown : r.remoteOutcome = .unknown := by
        rcases unresolved with none | ⟨r', stored', same', unknown⟩
        · exact (none r stored same).elim
        · rw [agree.single r stored r' stored' (same.trans same'.symm)]
          exact unknown
      dsimp only
      rw [if_pos unknown]
      exact ⟨_, List.mem_singleton_self _, rfl⟩

/-- An unresolved call is found under its run. -/
theorem call_found (traced : Traced s.runtime) {i : ToolInvocation}
    (mem : i ∈ s.runtime.toolInvocations.values) (here : i.workspaceId = workspaceId)
    (unresolved : Unresolved s.runtime i) :
    (.toolInvocation, i.id.value) ∈ (findings s attached workspaceId).map Finding.subject := by
  obtain ⟨run, of⟩ := traced.calls i mem
  have key : AgentRun.key run = i.runId := Registry.key_of_get? of.stored
  obtain ⟨c, found, same⟩ : ∃ c ∈ callCase workspaceId run (receiptsOf s.runtime run.id) i,
      c.key = (.toolInvocation, i.id.value) := callCase_unresolved traced.receipts unresolved
  have runHere : run ∈ runsIn s.runtime workspaceId :=
    List.mem_filter.mpr ⟨Registry.mem_values_of_get? of.stored,
      decide_eq_true (of.workspace.symm.trans here)⟩
  have call : i ∈ callsOf s.runtime run.id :=
    List.mem_filter.mpr ⟨mem, decide_eq_true key.symm⟩
  have finding : c.finding ∈ callFindings s.runtime workspaceId run :=
    List.mem_map_of_mem (List.mem_flatMap.mpr ⟨i, call, found⟩)
  have scanned : c.finding.subject ∈
      (findings s attached workspaceId).map Finding.subject := scanned_found
    (mem_scannedFindings.mpr (.inr (.inr ⟨run, runHere, finding⟩)))
  rwa [show c.finding.subject = c.key from rfl, same] at scanned

end Findings

/-! ## The classification of a reachable store -/

/-- The subject has one case. -/
def OneCase (cases : List ClassifiedCase) (kind : RecoverySubject) (id : PyStr) : Prop :=
  ∃! c, c ∈ cases ∧ c.key = (kind, id)

/-- A classification names each subject at most once, leaves nothing unfinished out, and
names records of the workspace only. -/
structure Classified (s : OrchestrationStore) (attached : Bool) (workspaceId : WorkspaceId)
    (cases : List ClassifiedCase) : Prop where
  unique : (cases.map ClassifiedCase.key).Nodup
  runs : ∀ run ∈ s.runtime.runs.values, run.workspaceId = workspaceId →
    run.status = .running ∨ run.status = .waiting → OneCase cases .agentRun run.id.value
  attempts : ∀ a ∈ s.runtime.domain.attempts.values, a.workspaceId = workspaceId →
    a.status = .created ∨ a.status = .running → OneCase cases .taskAttempt a.id.value
  executions : ∀ e ∈ s.runtime.domain.executions.values, e.workspaceId = workspaceId →
    e.status = .created ∨ e.status = .running ∨ e.status = .waiting →
    OneCase cases .execution e.id.value
  orchestrations : attached = true → ∀ r ∈ s.runs.values, r.workspaceId = workspaceId →
    r.status = .planning ∨ r.status = .running ∨ r.status = .waiting →
    OneCase cases .orchestrationRun r.id.value
  intents : ∀ g ∈ s.runtime.governed.values, g.intent.workspaceId = workspaceId →
    g.invocationId = none → OneCase cases .actionIntent g.intent.id.value
  calls : ∀ i ∈ s.runtime.toolInvocations.values, i.workspaceId = workspaceId →
    Unresolved s.runtime i → OneCase cases .toolInvocation i.id.value
  subjects : ∀ c ∈ cases, c.workspaceId = workspaceId ∧ SubjectIn s workspaceId c.key

section Classifications

variable {platform : Platform} {s : OrchestrationStore} {attached : Bool}
  {workspaceId : WorkspaceId} {raw : List ClassifiedCase}

theorem traced_after (platform : Platform) (labels : List Label) :
    Traced (Company.after platform labels).store.runtime :=
  KeptByRuntime.after (P := Traced) ⟨Write.traced, fun label traced => traced.step label⟩
    Traced.empty labels

theorem asked_after (platform : Platform) (labels : List Label) :
    Asked (Company.after platform labels).store.runtime := by
  have kept : KeptByRuntime platform fun t => Traced t ∧ Asked t :=
    ⟨fun write kept => ⟨write.traced kept.1, write.asked kept.2⟩,
      fun label kept => ⟨kept.1.step label, kept.2.step kept.1 label⟩⟩
  exact (kept.after ⟨Traced.empty, Asked.empty⟩ labels).2

theorem keys_findings (found : raw.map ClassifiedCase.finding = findings s attached workspaceId) :
    raw.map ClassifiedCase.key = (findings s attached workspaceId).map Finding.subject := by
  rw [← found, List.map_map]
  rfl

/-- A subject that is found has one case. -/
theorem oneCase_of_found (traced : Traced s.runtime)
    (found : raw.map ClassifiedCase.finding = findings s attached workspaceId)
    {kind : RecoverySubject} {id : PyStr}
    (mem : (kind, id) ∈ (findings s attached workspaceId).map Finding.subject) :
    OneCase (sortedCases raw) kind id := by
  have keys := keys_findings found
  have distinct : (raw.map ClassifiedCase.key).Nodup := keys ▸ nodup_findings traced.runs
  rw [← keys] at mem
  obtain ⟨c, stored, key⟩ := List.mem_map.mp mem
  refine ⟨c, ⟨mem_sortedCases.mpr stored, key⟩, ?_⟩
  rintro c' ⟨mem', key'⟩
  exact List.inj_on_of_nodup_map distinct (mem_sortedCases.mp mem') stored (key'.trans key.symm)

theorem classified_of_findings (traced : Traced s.runtime)
    (found : raw.map ClassifiedCase.finding = findings s attached workspaceId) :
    Classified s attached workspaceId (sortedCases raw) where
  unique := nodup_sortedCases (keys_findings found ▸ nodup_findings traced.runs)
  runs run stored here unfinished := by
    apply oneCase_of_found traced found
    have active : activeRun run = true := by simpa [activeRun] using unfinished
    have runHere : run ∈ runsIn s.runtime workspaceId :=
      List.mem_filter.mpr ⟨stored, decide_eq_true here⟩
    exact scanned_found (mem_scannedFindings.mpr (.inl ⟨run, runHere,
      mem_runFindings.mpr ⟨active, .inl rfl⟩⟩))
  attempts a stored here unfinished := by
    apply oneCase_of_found traced found
    refine parent_found (mem_parentsIn.mpr (.inr (.inl ⟨a, stored, here, rfl⟩))) ?_
    rcases unfinished with status | status <;> rw [status] <;> dsimp only <;> decide
  executions e stored here unfinished := by
    apply oneCase_of_found traced found
    refine parent_found (mem_parentsIn.mpr (.inl ⟨e, stored, here, rfl⟩)) ?_
    rcases unfinished with status | status | status <;> rw [status] <;> dsimp only <;> decide
  orchestrations present r stored here unfinished := by
    apply oneCase_of_found traced found
    refine parent_found (mem_parentsIn.mpr (.inr (.inr ⟨present, r, stored, here, rfl⟩))) ?_
    rcases unfinished with status | status | status <;> rw [status] <;> dsimp only <;> decide
  intents g stored here unclaimed := by
    apply oneCase_of_found traced found
    have recordHere : g ∈ recordsIn s.runtime workspaceId :=
      List.mem_filter.mpr ⟨stored, decide_eq_true here⟩
    exact scanned_found (mem_scannedFindings.mpr (.inr (.inl ⟨g, recordHere,
      mem_intentFindings.mpr ⟨unclaimed, rfl⟩⟩)))
  calls i stored here unresolved :=
    oneCase_of_found traced found (call_found traced stored here unresolved)
  subjects c mem := by
    have finding : c.finding ∈ findings s attached workspaceId :=
      found ▸ List.mem_map_of_mem (mem_sortedCases.mp mem)
    exact findings_subject traced finding

/-- In every reachable state, a classification of a workspace that exists returns; what it
returns names each subject at most once, leaves nothing unfinished out and names records of
the workspace only. -/
theorem classification_complete (platform : Platform) (labels : List Label) (env : Env)
    (attached : Bool) (workspaceId : WorkspaceId) (issued reads : Nat) :
    let s := (Company.after platform labels).store
    ((∃ ws, s.runtime.domain.workspaces.get? workspaceId = some ws) →
      ∃ cases w', classify env attached workspaceId ⟨s, issued, reads⟩ = .ok cases w') ∧
    ∀ cases w', classify env attached workspaceId ⟨s, issued, reads⟩ = .ok cases w' →
      w'.store = s ∧ Classified s attached workspaceId cases := by
  intro s
  refine ⟨?_, ?_⟩
  · rintro ⟨ws, present⟩
    have looks : Looks s (classify env attached workspaceId) _ := looks_classify present
    obtain ⟨cases, w', ok, -⟩ := looks ⟨s, issued, reads⟩ rfl
    exact ⟨cases, w', ok⟩
  · intro cases w' ok
    obtain ⟨kept, raw, rfl, found⟩ := classify_eq_ok ok
    exact ⟨kept, classified_of_findings (traced_after platform labels) found⟩

/-! ## What was not executed -/

/-- The invocation is work of the run, the attempt, the execution or the intent. -/
def Concerns (s : RuntimeStore) (i : ToolInvocation) : RecoverySubject × PyStr → Prop
  | (.agentRun, id) => i.runId.value = id
  | (.taskAttempt, id) => i.taskAttemptId.value = id
  | (.execution, id) => i.executionId.value = id
  | (.actionIntent, id) => ∃ g ∈ s.governed.values, g.intent.id.value = id ∧
      (g.intent.actionId = i.actionId ∨ g.invocationId = some i.id)
  | _ => False

/-- No case claims `not_executed` for a subject that has an invocation. -/
def NotExecutedSound (s : RuntimeStore) (cases : List ClassifiedCase) : Prop :=
  ∀ c ∈ cases, c.outcome = .notExecuted → ∀ i ∈ s.toolInvocations.values, ¬Concerns s i c.key

/-- An unfinished run that has not called stands on an execution in which no run has. -/
def FreshExecutions (s : RuntimeStore) (workspaceId : WorkspaceId) : Prop :=
  ∀ run ∈ s.runs.values, run.workspaceId = workspaceId →
    run.status = .running ∨ run.status = .waiting →
    (∀ i ∈ s.toolInvocations.values, i.runId ≠ run.id) →
    ∀ i ∈ s.toolInvocations.values, i.executionId ≠ run.executionId

theorem runOutcome_eq_notExecuted {s : RuntimeStore} {id : AgentRunId} :
    runOutcome (callsOf s id) = .notExecuted ↔ ∀ i ∈ s.toolInvocations.values, i.runId ≠ id := by
  have empty : callsOf s id = [] ↔ ∀ i ∈ s.toolInvocations.values, i.runId ≠ id := by
    simp [callsOf]
  unfold runOutcome
  split
  · simp_all
  · simp_all

/-- The calls under the attempt of a run are its own. -/
theorem calls_of_attempt (traced : Traced s.runtime) {run : AgentRun}
    (stored : run ∈ s.runtime.runs.values) {i : ToolInvocation}
    (mem : i ∈ s.runtime.toolInvocations.values) (same : i.taskAttemptId = run.taskAttemptId) :
    i.runId = run.id := by
  obtain ⟨parent, of⟩ := traced.calls i mem
  have key : AgentRun.key parent = i.runId := Registry.key_of_get? of.stored
  have storedParent := Registry.mem_values_of_get? of.stored
  obtain rfl := traced.runs.alone parent storedParent run stored (of.attempt.symm.trans same)
  exact key.symm

/-- The intent of a case has no invocation. -/
theorem intent_sound (asked : Asked s.runtime) {record : GovernedAction}
    (stored : record ∈ s.runtime.governed.values) (unclaimed : record.invocationId = none)
    {i : ToolInvocation} (mem : i ∈ s.runtime.toolInvocations.values) :
    ¬Concerns s.runtime i (.actionIntent, record.intent.id.value) := by
  rintro ⟨g, storedG, same, link⟩
  obtain rfl := Registry.eq_of_key storedG stored (OpaqueId.ext_value same)
  rcases link with action | claimed
  · exact asked.unused g storedG unclaimed i mem action.symm
  · rw [unclaimed] at claimed
    cases claimed

theorem notExecutedSound_iff (traced : Traced s.runtime) (asked : Asked s.runtime)
    (found : raw.map ClassifiedCase.finding = findings s attached workspaceId) :
    NotExecutedSound s.runtime (sortedCases raw) ↔ FreshExecutions s.runtime workspaceId := by
  constructor
  · intro sound run stored here unfinished none i mem
    have active : activeRun run = true := by simpa [activeRun] using unfinished
    have runHere : run ∈ runsIn s.runtime workspaceId :=
      List.mem_filter.mpr ⟨stored, decide_eq_true here⟩
    have finding : (workspaceId, (RecoverySubject.execution, run.executionId.value),
        RecoveryOutcome.notExecuted) ∈ findings s attached workspaceId := by
      refine List.mem_append_left _ (mem_scannedFindings.mpr (.inl ⟨run, runHere,
        mem_runFindings.mpr ⟨active, .inr (.inr ?_)⟩⟩))
      rw [runOutcome_eq_notExecuted.mpr none]
    rw [← found] at finding
    obtain ⟨c, memC, same⟩ := List.mem_map.mp finding
    simp only [ClassifiedCase.finding, Prod.mk.injEq] at same
    obtain ⟨-, key, outcome⟩ := same
    have apart := sound c (mem_sortedCases.mpr memC) outcome i mem
    rw [key] at apart
    exact fun execution => apart (congrArg OpaqueId.value execution)
  · intro fresh c mem outcome i memI
    have finding : c.finding ∈ findings s attached workspaceId :=
      found ▸ List.mem_map_of_mem (mem_sortedCases.mp mem)
    rcases List.mem_append.mp finding with scan | gap
    · rcases mem_scannedFindings.mp scan with ⟨run, here, what⟩ | ⟨record, here, what⟩ |
          ⟨run, here, what⟩
      · obtain ⟨stored, workspace⟩ := runsIn_subject here
        obtain ⟨active, what⟩ := mem_runFindings.mp what
        have unfinished : run.status = .running ∨ run.status = .waiting := by
          simpa [activeRun] using active
        have none : ∀ i ∈ s.runtime.toolInvocations.values, i.runId ≠ run.id := by
          apply runOutcome_eq_notExecuted.mp
          rw [← outcome]
          rcases what with same | same | same <;> exact (congrArg (·.2.2) same).symm
        rcases what with same | same | same
        · rw [show c.key = (.agentRun, run.id.value) from congrArg (·.2.1) same]
          exact fun own => none i memI (OpaqueId.ext_value own)
        · rw [show c.key = (.taskAttempt, run.taskAttemptId.value) from congrArg (·.2.1) same]
          exact fun own => none i memI
            (calls_of_attempt traced stored memI (OpaqueId.ext_value own))
        · rw [show c.key = (.execution, run.executionId.value) from congrArg (·.2.1) same]
          exact fun own => fresh run stored workspace unfinished none i memI
            (OpaqueId.ext_value own)
      · obtain ⟨unclaimed, same⟩ := mem_intentFindings.mp what
        rw [show c.key = (.actionIntent, record.intent.id.value) from congrArg (·.2.1) same]
        exact intent_sound asked (List.mem_filter.mp here).1 unclaimed memI
      · obtain ⟨_, -, -, -, other⟩ := mem_callFindings what
        exact (other outcome).elim
    · obtain ⟨parent, -, what⟩ := List.mem_flatMap.mp gap
      obtain ⟨same, -⟩ := mem_gapFindings.mp what
      rw [show c.outcome = .outcomeUnknown from congrArg (·.2.2) same] at outcome
      cases outcome

/-- In every reachable state, no case of a classification claims `not_executed` over
dispatched work exactly when every unfinished run that has not called stands on an
execution in which no run has. -/
theorem not_executed_iff (platform : Platform) (labels : List Label) (env : Env)
    (attached : Bool) (workspaceId : WorkspaceId) (issued reads : Nat) :
    let s := (Company.after platform labels).store
    ∀ cases w', classify env attached workspaceId ⟨s, issued, reads⟩ = .ok cases w' →
      (NotExecutedSound s.runtime cases ↔ FreshExecutions s.runtime workspaceId) := by
  intro s cases w' ok
  obtain ⟨-, raw, rfl, found⟩ := classify_eq_ok ok
  exact notExecutedSound_iff (traced_after platform labels) (asked_after platform labels) found

end Classifications

/-! ### An execution with an earlier call -/

section Sample

/-- A tool that only reads. -/
def lookupTool : ToolVersion :=
  { sendTool with
    definition := ⟨numbered .tool 900, sampleWorkspace, txt "lookup", txt "lookup", .readOnly⟩
    executorKind := .companyLookup }

/-- An agent that may look up. -/
def lookupDefinition : AgentDefinitionVersion :=
  { senderDefinition with role := txt "researcher", allowedTools := [lookupTool.grant] }

def lookupHost : Host :=
  { sampleHost with
    governance := false
    executor := fun grant => if grant = lookupTool.grant then some .external else none }

def lookupDecision : PyStr :=
  py ("\x7b\"schema_version\":1,\"action_type\":\"call_tool\",\"payload\":" ++
    "\x7b\"tool_id\":\"id-900\",\"arguments\":\x7b\"company_name\":\"acme\"\x7d\x7d\x7d")

def doneDecision : PyStr :=
  py ("\x7b\"schema_version\":1,\"action_type\":\"complete_task\",\"payload\":" ++
    "\x7b\"findings\":[\x7b\"key\":\"k\",\"value\":\"v\",\"source_id\":\"s\"\x7d]," ++
    "\"gaps\":[]\x7d\x7d")

/-- The start of a run of the looking agent for a task and its attempt. -/
def lookupStart (task attempt : Nat) : Runtime.Label :=
  .command (.startRun lookupHost ⟨sampleWorkspace, lookupDefinition.definition.id, changed 0,
    numbered .taskAttempt attempt, ⟨sampleWorkspace, numbered .task task, [py "k"],
      [⟨py "k", py "v", py "s"⟩], []⟩, .default, none⟩)

/-- A run that calls a tool and completes the first of two tasks; the second task is started. -/
def lookedUp : List Runtime.Label :=
  Runtime.startedRun.take 10 ++ [
    .command (.publishTool lookupTool),
    .command (.publishDefinition lookupDefinition),
    lookupStart 6 16,
    .command (.domain (.createTask
      ⟨sampleWorkspace, numbered .goal 2, py "again", [py "found"]⟩)),
    .open lookupHost (.drive sampleWorkspace sampleRun (changed 0)),
    .advance 0 .next,
    .advance 0 (.ports noAnswers),
    .advance 0 (.model (.ok lookupDecision) noAnswers),
    .advance 0 .next,
    .advance 0 .next,
    .advance 0 (.executor (.error (.tool .rejected))),
    .advance 0 .next,
    .advance 0 (.ports noAnswers),
    .advance 0 (.model (.ok doneDecision) noAnswers),
    .command (.domain (.readyTask (numbered .task 22) (changed 0))),
    .command (.domain (.startTask (numbered .task 22) (changed 1)))]

/-- A second run on the execution of the first. -/
def reusedExecution : List Runtime.Label :=
  lookedUp ++ [
    .command (.domain (.createTaskAttempt
      ⟨sampleWorkspace, numbered .task 22, numbered .execution 12⟩)),
    .command (.domain (.startTaskAttempt (numbered .taskAttempt 51) (changed 0))),
    lookupStart 22 51]

/-- A second run on an execution of its own. -/
def freshExecution : List Runtime.Label :=
  lookedUp ++ [
    .command (.domain (.createExecution
      ⟨sampleWorkspace, numbered .goal 2, py "more", 3, none⟩)),
    .command (.domain (.startExecution (numbered .execution 51) (changed 0))),
    .command (.domain (.createTaskAttempt
      ⟨sampleWorkspace, numbered .task 22, numbered .execution 51⟩)),
    .command (.domain (.startTaskAttempt (numbered .taskAttempt 55) (changed 0))),
    lookupStart 22 55]

/-- The runtime store after steps of the runtime alone. -/
theorem after_runtime (platform : Platform) (labels : List Runtime.Label) :
    (Company.after platform (labels.map .runtime)).store.runtime =
      (Sys.after platform labels).store := by
  have run : ∀ (labels : List Runtime.Label) (c : Company),
      ((labels.map Label.runtime).foldl (Company.step platform) c).runtime =
        Sys.run platform c.runtime labels := by
    intro labels
    induction labels with
    | nil => exact fun _ => rfl
    | cons label rest ih => exact fun c => ih (c.step platform (.runtime label))
  exact congrArg Sys.store (run labels .empty)

instance (s : RuntimeStore) (workspaceId : WorkspaceId) :
    Decidable (FreshExecutions s workspaceId) := by
  unfold FreshExecutions
  infer_instance

set_option maxRecDepth 20000 in
theorem reused_not_fresh :
    let s := (Sys.after numberedPlatform reusedExecution).store
    (s.domain.workspaces.get? sampleWorkspace).isSome = true ∧
      ¬FreshExecutions s sampleWorkspace := by
  decide +kernel

/-- A workspace that is known is classified. -/
theorem known_classified {labels : List Runtime.Label}
    (known : ((Sys.after numberedPlatform labels).store.domain.workspaces.get?
      sampleWorkspace).isSome = true) :
    ∃ cases w', classify numberedEnv false sampleWorkspace
      ⟨(Company.after numberedPlatform (labels.map .runtime)).store, 0, 0⟩ = .ok cases w' := by
  rw [← after_runtime numberedPlatform labels] at known
  obtain ⟨ws, present⟩ := Option.isSome_iff_exists.mp known
  have looks : Looks _ (classify numberedEnv false _) _ := looks_classify present
  obtain ⟨cases, w', ok, -⟩ := looks ⟨_, 0, 0⟩ rfl
  exact ⟨cases, w', ok⟩

/-- The execution of the second run is classified as not executed, although the first run
has called a tool under it. -/
theorem reused_execution_not_executed :
    let s := (Company.after numberedPlatform (reusedExecution.map .runtime)).store
    ∃ cases w', classify numberedEnv false sampleWorkspace ⟨s, 0, 0⟩ = .ok cases w' ∧
      ¬NotExecutedSound s.runtime cases := by
  intro s
  obtain ⟨cases, w', ok⟩ := known_classified reused_not_fresh.1
  have reused := reused_not_fresh.2
  rw [← after_runtime numberedPlatform reusedExecution] at reused
  obtain ⟨-, raw, rfl, found⟩ := classify_eq_ok ok
  refine ⟨_, w', ok, fun sound => reused ?_⟩
  exact (notExecutedSound_iff (traced_after _ _) (asked_after _ _) found).mp sound

set_option maxRecDepth 20000 in
theorem fresh_is_fresh :
    let s := (Sys.after numberedPlatform freshExecution).store
    (s.domain.workspaces.get? sampleWorkspace).isSome = true ∧ FreshExecutions s sampleWorkspace ∧
      s.toolInvocations.values ≠ [] ∧
      ∃ run ∈ s.runs.values, run.status = .running ∧
        ∀ i ∈ s.toolInvocations.values, i.runId ≠ run.id := by
  decide +kernel

/-- The second run has an execution of its own: it has not called, the first run has, and no
case claims `not_executed` over the call. -/
theorem fresh_execution_sound :
    let s := (Company.after numberedPlatform (freshExecution.map .runtime)).store
    s.runtime.toolInvocations.values ≠ [] ∧
      (∃ run ∈ s.runtime.runs.values, run.status = .running ∧
        ∀ i ∈ s.runtime.toolInvocations.values, i.runId ≠ run.id) ∧
      ∃ cases w', classify numberedEnv false sampleWorkspace ⟨s, 0, 0⟩ = .ok cases w' ∧
        NotExecutedSound s.runtime cases := by
  intro s
  obtain ⟨known, fresh, calls, idle⟩ := fresh_is_fresh
  obtain ⟨cases, w', ok⟩ := known_classified known
  rw [← after_runtime numberedPlatform freshExecution] at fresh calls idle
  exact ⟨calls, idle, cases, w', ok, (not_executed_iff numberedPlatform
    (freshExecution.map .runtime) numberedEnv false sampleWorkspace 0 0 cases w' ok).mpr fresh⟩

end Sample

end AgentCompanyOS.Orchestration
