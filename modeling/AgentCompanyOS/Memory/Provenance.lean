import AgentCompanyOS.Memory.Service
import AgentCompanyOS.Runtime.Release

/-!
# Provenance against the whole evidence

What a user or a tool has said supports a proposal when the proposal is among the statements
under its source references (`Supports`). The service looks each reference up in an index
that keeps one statement for a source id, so that it passes the supported proposals whose
content and claim survive in the index (`Shown`), and no others.
-/

set_option autoImplicit false

namespace AgentCompanyOS.Memory

open Foundation Foundation.Txn Domain AgentCompanyOS.Runtime

/-! ## Support -/

/-- The statements of the evidence support a proposal: every referenced source has one, the
content is the value of one, and the claim, if there is one, is the claim of one. -/
structure Supports (statements : List Statement) (command : ProposeMemoryCandidate) : Prop where
  known : ∀ r ∈ command.provenance.sourceReferences, ∃ s ∈ statements, s.sourceId = r
  content : ∃ s ∈ statements, s.sourceId ∈ command.provenance.sourceReferences ∧
    command.content = s.value
  claim : command.claimKey ≠ none → ∃ s ∈ statements,
    s.sourceId ∈ command.provenance.sourceReferences ∧ s.claims command

/-- A statement that no later one of the same source follows. -/
abbrev Surviving (statements : List Statement) (s : Statement) : Prop :=
  Registry.Survives Statement.sourceId statements s

/-- The content and the claim of a proposal are still said by the statements that no later
one of the same source follows. -/
structure Shown (statements : List Statement) (command : ProposeMemoryCandidate) : Prop where
  content : ∃ s, Surviving statements s ∧
    s.sourceId ∈ command.provenance.sourceReferences ∧ command.content = s.value
  claim : command.claimKey ≠ none → ∃ s, Surviving statements s ∧
    s.sourceId ∈ command.provenance.sourceReferences ∧ s.claims command

section Index

variable {statements : List Statement} {command : ProposeMemoryCandidate} {rule : String}

theorem indexed_eq_some_iff {r : PyStr} {s : Statement} :
    indexed statements r = some s ↔ Surviving statements s ∧ s.sourceId = r :=
  Registry.get?_ofList_eq_some_iff

theorem indexed_isSome_iff {r : PyStr} :
    (indexed statements r).isSome = true ↔ ∃ s ∈ statements, s.sourceId = r := by
  rw [← List.mem_map]
  exact Registry.contains_ofList_iff

/-- Looking references up in the index finds the surviving statements under them. -/
theorem exists_indexed_iff {references : List PyStr} {P : Statement → Prop} :
    (∃ r ∈ references, ∃ s ∈ indexed statements r, P s) ↔
      ∃ s, Surviving statements s ∧ s.sourceId ∈ references ∧ P s := by
  constructor
  · rintro ⟨r, mem, s, found, holds⟩
    obtain ⟨survives, rfl⟩ := indexed_eq_some_iff.mp found
    exact ⟨s, survives, mem, holds⟩
  · rintro ⟨s, survives, mem, holds⟩
    exact ⟨_, mem, s, indexed_eq_some_iff.mpr ⟨survives, rfl⟩, holds⟩

theorem checkStatements_eq_ok_iff :
    checkStatements rule statements command = .ok () ↔
      (∀ r ∈ command.provenance.sourceReferences, ∃ s ∈ statements, s.sourceId = r) ∧
        Shown statements command := by
  have looked : (∀ r ∈ command.provenance.sourceReferences, (indexed statements r).isSome = true) ↔
      ∀ r ∈ command.provenance.sourceReferences, ∃ s ∈ statements, s.sourceId = r :=
    forall₂_congr fun _ _ => indexed_isSome_iff
  unfold checkStatements
  dsimp only
  split
  · next refused =>
      constructor
      · intro h
        cases h
      · rintro ⟨known, shown⟩
        exact absurd ⟨looked.mpr known, exists_indexed_iff.mpr shown.content⟩ refused
  · next passed =>
      obtain ⟨known, said⟩ := not_not.mp passed
      split
      · next refused =>
          constructor
          · intro h
            cases h
          · rintro ⟨-, shown⟩
            exact absurd (exists_indexed_iff.mpr (shown.claim refused.1)) refused.2
      · next passed =>
          refine ⟨fun _ => ⟨looked.mp known, exists_indexed_iff.mp said, fun claimed => ?_⟩,
            fun _ => rfl⟩
          by_contra hidden
          exact passed ⟨claimed, fun shown => hidden (exists_indexed_iff.mp shown)⟩

/-- What survives in the index is among the statements. -/
theorem Shown.supports (shown : Shown statements command)
    (known : ∀ r ∈ command.provenance.sourceReferences, ∃ s ∈ statements, s.sourceId = r) :
    Supports statements command where
  known := known
  content := by
    obtain ⟨s, survives, under, same⟩ := shown.content
    exact ⟨s, survives.mem, under, same⟩
  claim := by
    intro claimed
    obtain ⟨s, survives, under, same⟩ := shown.claim claimed
    exact ⟨s, survives.mem, under, same⟩

/-- The check and the meaning agree exactly when what supports the proposal survives. -/
theorem checkStatements_exact :
    (checkStatements rule statements command = .ok () ↔ Supports statements command) ↔
      (Supports statements command → Shown statements command) := by
  rw [checkStatements_eq_ok_iff]
  constructor
  · intro exact' supports
    exact (exact'.mpr supports).2
  · intro survives
    exact ⟨fun ⟨known, shown⟩ => shown.supports known,
      fun supports => ⟨supports.known, survives supports⟩⟩

/-- Of statements with different source ids every one survives. -/
theorem surviving_of_nodup (distinct : (statements.map Statement.sourceId).Nodup)
    {s : Statement} (mem : s ∈ statements) : Surviving statements s := by
  obtain ⟨before, after, rfl⟩ := List.append_of_mem mem
  refine ⟨before, after, rfl, fun y later same => ?_⟩
  rw [List.map_append, List.map_cons, List.nodup_append] at distinct
  exact (List.nodup_cons.mp distinct.2.1).1 (List.mem_map.mpr ⟨y, later, same⟩)

/-- So with one statement for a source the check decides the meaning. -/
theorem Supports.shown (supports : Supports statements command)
    (distinct : (statements.map Statement.sourceId).Nodup) : Shown statements command where
  content := by
    obtain ⟨s, mem, under, same⟩ := supports.content
    exact ⟨s, surviving_of_nodup distinct mem, under, same⟩
  claim := by
    intro claimed
    obtain ⟨s, mem, under, same⟩ := supports.claim claimed
    exact ⟨s, surviving_of_nodup distinct mem, under, same⟩

end Index

/-! ## The service -/

/-- The two kinds of provenance that are compared with statements. -/
inductive StatementKind where
  | userStatement | toolReceipt

def StatementKind.provenance : StatementKind → MemoryProvenanceKind
  | userStatement => .userStatement
  | toolReceipt => .toolReceipt

/-- The facts of the receipts of granted tools; there are none where they cannot be read. -/
def receiptEvidence (platform : MemoryPlatform) (run : AgentRun) (w : World MemoryStore) :
    List Fact :=
  if platform.tools = true then
    match inRuntime (evidence run) w with
    | .ok facts _ => facts
    | .error _ _ => []
  else []

/-- The evidence of a run for a kind of provenance. -/
def StatementKind.evidence (kind : StatementKind) (platform : MemoryPlatform) (run : AgentRun)
    (w : World MemoryStore) : List Statement :=
  match kind with
  | userStatement => userStatements run
  | toolReceipt => (receiptEvidence platform run w).map Statement.ofFact

/-- A proposal passes the validation of its provenance. -/
def PassesProvenance (platform : MemoryPlatform) (run : AgentRun)
    (command : ProposeMemoryCandidate) (w : World MemoryStore) : Prop :=
  ∃ w', validateProvenance platform run command w = .ok () w'

variable {platform : MemoryPlatform} {run : AgentRun} {command : ProposeMemoryCandidate}
  {w : World MemoryStore}

/-- A command has a reference, so that without evidence it is not supported. -/
theorem not_supports_nil : ¬Supports [] command := by
  intro supports
  obtain ⟨s, mem, -⟩ := supports.content
  cases mem

/-- Running a check that only reads a value. -/
theorem ofExcept_passes {r : Except Exc Unit} :
    (∃ w', (Txn.ofExcept r : MemoryTxn Unit) w = .ok () w') ↔ r = .ok () := by
  constructor
  · rintro ⟨w', ok⟩
    exact (ofExcept_eq_ok.mp ok).1
  · rintro rfl
    exact ⟨w, rfl⟩

/-- The service passes a proposal when the check of the statements does. -/
theorem passesProvenance_iff (kind : StatementKind)
    (named : command.provenance.kind = kind.provenance) :
    ∃ rule, PassesProvenance platform run command w ↔
      checkStatements rule (kind.evidence platform run w) command = .ok () := by
  cases kind with
  | userStatement =>
      refine ⟨"memory_user_statement_provenance", ?_⟩
      unfold PassesProvenance validateProvenance
      rw [named]
      exact ofExcept_passes
  | toolReceipt =>
      have unsupported : ∀ rule, ¬checkStatements rule [] command = .ok () := by
        intro rule ok
        obtain ⟨known, shown⟩ := checkStatements_eq_ok_iff.mp ok
        exact not_supports_nil (shown.supports known)
      refine ⟨"memory_tool_receipt_provenance", ?_⟩
      unfold PassesProvenance validateProvenance StatementKind.evidence receiptEvidence
      rw [named]
      dsimp only [StatementKind.provenance]
      cases attached : platform.tools with
      | false =>
          constructor
          · rintro ⟨w', ok⟩
            obtain ⟨refused, -⟩ := raiseIf_then ok
            exact absurd rfl refused
          · intro ok
            exact absurd ok (unsupported _)
      | true =>
          have start : ∀ f : Unit → MemoryTxn Unit,
              ((raiseIf (true = false) (violation "memory_tool_provenance_unavailable") >>= f) :
                MemoryTxn Unit) w = f () w := fun f => rfl
          rw [start, bind_apply]
          cases answered : inRuntime (Runtime.evidence run) w with
          | ok facts w' => exact ofExcept_passes
          | error e w' =>
              constructor
              · rintro ⟨w'', ok⟩
                cases ok
              · intro ok
                exact absurd ok (unsupported _)

/-- A proposal about what a user or a tool has said is judged by the whole evidence exactly
when, if the evidence supports it, its content and its claim are among the statements that
no later one of the same source follows; so with one statement for each source it always is. -/
theorem provenance_exact (platform : MemoryPlatform) (w : World MemoryStore) (run : AgentRun)
    (command : ProposeMemoryCandidate) (kind : StatementKind)
    (named : command.provenance.kind = kind.provenance) :
    ((PassesProvenance platform run command w ↔
        Supports (kind.evidence platform run w) command) ↔
      (Supports (kind.evidence platform run w) command →
        Shown (kind.evidence platform run w) command)) ∧
    (((kind.evidence platform run w).map Statement.sourceId).Nodup →
      (PassesProvenance platform run command w ↔
        Supports (kind.evidence platform run w) command)) := by
  obtain ⟨rule, passes⟩ := @passesProvenance_iff platform run command w kind named
  rw [passes]
  refine ⟨checkStatements_exact, fun distinct => ?_⟩
  exact checkStatements_exact.mpr fun supports => supports.shown distinct

section Sample

/-- A host with both evidence ports, whose retriever ranks the entries as they come. Its
inputs are in lower case. -/
def samplePlatform : MemoryPlatform where
  toEnv := numberedPlatform.toEnv
  casefold text := text
  secret _ := false
  retriever query eligible :=
    .ok ⟨(eligible.take query.topK).map fun entry => ⟨entry, 1, [], false⟩, strategyVersion⟩
  knowledge := true
  tools := true

/-- A run that has succeeded; its caller has stated two facts under one source. -/
def statedFields : RunFields where
  id := sampleRun
  workspaceId := sampleWorkspace
  executionId := numbered .execution 12
  taskAttemptId := numbered .taskAttempt 16
  taskId := numbered .task 6
  goalId := numbered .goal 2
  definitionVersion := senderDefinition
  limits := .default
  context := ⟨sampleWorkspace, numbered .task 6, [py "city"],
    [⟨py "city", py "oslo", py "crm"⟩, ⟨py "plan", py "gold", py "crm"⟩], []⟩
  createdAt := 0
  deadline := 60000000
  version := changed 0
  status := .succeeded
  workingState := .initial
  endedAt := some 5
  errorCode := none
  result := some ⟨py "oslo", [⟨py "city", py "oslo", py "crm"⟩], [], [py "crm"]⟩
  runtimeProtocol := txt "single-agent-v1" single_agent_visible
  policyVersion := txt "policy"
  evaluatorVersion := txt "evaluator"
  organizationVersion := none

def statedRun : AgentRun where
  toRunFields := statedFields
  valid := ⟨by decide, by decide, by decide, by decide, by decide, by decide, by decide⟩

/-- A proposal to remember one of the facts that the source has stated. -/
def statedProposal (key value : PyStr) : ProposeMemoryCandidate where
  workspaceId := sampleWorkspace
  runId := sampleRun
  memoryType := .semantic
  subject := py "customer"
  content := value
  scope := ⟨.workspace, py "*"⟩
  provenance := ⟨.userStatement, sampleRun, [py "crm"], .stated, by decide, by decide⟩
  sensitivity := .normal
  claimKey := some key
  claimValue := some value
  expiresAt := none

def sampleStart : World MemoryStore := ⟨⟨.empty, .empty⟩, 0, 0⟩

/-- The run when its caller has the first fact from another source. -/
def partedRun : AgentRun where
  toRunFields := { statedFields with
    context := ⟨sampleWorkspace, numbered .task 6, [py "city"],
      [⟨py "city", py "oslo", py "erp"⟩, ⟨py "plan", py "gold", py "crm"⟩], []⟩ }
  valid := ⟨by decide, by decide, by decide, by decide, by decide, by decide, by decide⟩

/-- The last fact of the source is judged as it should be, and every proposal is where the facts
have a source each. -/
theorem last_fact_exact :
    (PassesProvenance samplePlatform statedRun (statedProposal (py "plan") (py "gold"))
        sampleStart ↔
      Supports (userStatements statedRun) (statedProposal (py "plan") (py "gold"))) ∧
    (PassesProvenance samplePlatform partedRun (statedProposal (py "plan") (py "gold"))
        sampleStart ↔
      Supports (userStatements partedRun) (statedProposal (py "plan") (py "gold"))) := by
  refine ⟨(provenance_exact samplePlatform sampleStart statedRun _ .userStatement rfl).1.mpr ?_,
    (provenance_exact samplePlatform sampleStart partedRun _ .userStatement rfl).2 (by decide)⟩
  intro _
  have last : Surviving (userStatements statedRun) ⟨py "crm", some (py "plan"), py "gold"⟩ :=
    ⟨[⟨py "crm", some (py "city"), py "oslo"⟩], [], rfl, nofun⟩
  exact ⟨⟨_, last, by decide, rfl⟩, fun _ => ⟨_, last, by decide, .inl ⟨rfl, rfl⟩⟩⟩

/-- The first fact of the source supports a proposal that the service refuses: the index
keeps the second fact only. -/
theorem first_fact_refused :
    statedRun.status = .succeeded ∧
      ¬(PassesProvenance samplePlatform statedRun (statedProposal (py "city") (py "oslo"))
          sampleStart ↔
        Supports (userStatements statedRun) (statedProposal (py "city") (py "oslo"))) := by
  refine ⟨rfl, fun exact' => ?_⟩
  have supports : Supports (userStatements statedRun) (statedProposal (py "city") (py "oslo")) :=
    ⟨by decide, by decide, by decide⟩
  obtain ⟨rule, passes⟩ := @passesProvenance_iff samplePlatform statedRun
    (statedProposal (py "city") (py "oslo")) sampleStart .userStatement rfl
  have passed := passes.mp (exact'.mpr supports)
  obtain ⟨s, survives, -, same⟩ := (checkStatements_eq_ok_iff.mp passed).2.content
  have kept := indexed_eq_some_iff.mpr ⟨survives, rfl⟩
  have under : s.sourceId = py "crm" := by
    have said : ∀ s ∈ userStatements statedRun, s.sourceId = py "crm" := by decide
    exact said s survives.mem
  rw [under] at kept
  have last : indexed (userStatements statedRun) (py "crm") =
      some ⟨py "crm", some (py "plan"), py "gold"⟩ := by decide
  obtain rfl := Option.some.inj (last.symm.trans kept)
  exact absurd same (by decide)

end Sample

end AgentCompanyOS.Memory
