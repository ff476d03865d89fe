import AgentCompanyOS.Memory.Lifecycle
import AgentCompanyOS.Memory.Provenance

/-!
# Conflict flags

A retrieval marks each hit with the other entries that contradict its claim and with a flag
for the knowledge that does. The entries are listed exactly. The flag is computed from an
index of the evidence that keeps one value for a key, so that it misses the facts that a
later fact of the same key follows (`Hidden`), and these only.
-/

set_option autoImplicit false

namespace AgentCompanyOS.Memory

open Foundation Foundation.Txn Domain AgentCompanyOS.Runtime

/-! ## What a mark should say -/

/-- A fact has the claim key of an entry and another value. -/
def Contradicts (fact : Fact) (entry : MemoryEntry) : Prop :=
  entry.candidate.claimKey = some fact.key ∧ entry.candidate.claimValue ≠ some fact.value

instance (fact : Fact) (entry : MemoryEntry) : Decidable (Contradicts fact entry) :=
  inferInstanceAs (Decidable (_ ∧ _))

/-- Two entries have one claim key and different values. -/
def Disagree (entry other : MemoryEntry) : Prop :=
  entry.candidate.claimKey ≠ none ∧ other.candidate.claimKey = entry.candidate.claimKey ∧
    other.candidate.claimValue ≠ entry.candidate.claimValue

theorem Disagree.symm {entry other : MemoryEntry} (h : Disagree entry other) :
    Disagree other entry :=
  ⟨h.2.1 ▸ h.1, h.2.1.symm, Ne.symm h.2.2⟩

/-- Hits list the eligible entries that disagree with their own, and of two hits each lists the
other or neither does. -/
structure ListedExactly (eligible : List MemoryEntry) (hits : List MemoryHit) : Prop where
  listed : ∀ hit ∈ hits, ∀ id, id ∈ hit.conflictingEntryIds ↔
    ∃ other ∈ eligible, other.id = id ∧ other.id ≠ hit.entry.id ∧ Disagree hit.entry other
  paired : ∀ hit ∈ hits, ∀ hit' ∈ hits,
    (hit'.entry.id ∈ hit.conflictingEntryIds ↔ hit.entry.id ∈ hit'.conflictingEntryIds)

/-- The marks of the hits of a retrieval are exact. -/
structure MarkedExactly (facts : List Fact) (eligible : List MemoryEntry)
    (hits : List MemoryHit) : Prop extends ListedExactly eligible hits where
  flags : ∀ hit ∈ hits,
    (hit.conflictsWithKnowledge = true ↔ ∃ fact ∈ facts, Contradicts fact hit.entry)

/-- The evidence contradicts an entry, but no contradicting fact is the last of its key. -/
def Hidden (facts : List Fact) (entry : MemoryEntry) : Prop :=
  (∃ fact ∈ facts, Contradicts fact entry) ∧
    ∀ fact, Registry.Survives Fact.key facts fact → ¬Contradicts fact entry

section Marks

variable {facts : List Fact} {eligible : List MemoryEntry} {hit : MemoryHit}

theorem knownValue_eq_some_iff {key value : PyStr} :
    knownValue facts key = some value ↔
      ∃ fact, Registry.Survives Fact.key facts fact ∧ fact.key = key ∧ fact.value = value := by
  unfold knownValue
  rw [Option.map_eq_some_iff]
  constructor
  · rintro ⟨fact, found, same⟩
    obtain ⟨survives, here⟩ := Registry.get?_ofList_eq_some_iff.mp found
    exact ⟨fact, survives, here, same⟩
  · rintro ⟨fact, survives, here, same⟩
    exact ⟨fact, Registry.get?_ofList_eq_some_iff.mpr ⟨survives, here⟩, same⟩

/-- The flag says that a fact which is the last of its key contradicts the claim. -/
theorem marked_flag :
    (hit.marked facts eligible).conflictsWithKnowledge = true ↔
      ∃ fact, Registry.Survives Fact.key facts fact ∧ Contradicts fact hit.entry := by
  unfold MemoryHit.marked
  rw [decide_eq_true_iff]
  constructor
  · rintro ⟨key, named, value, known, other⟩
    obtain ⟨fact, survives, rfl, rfl⟩ := knownValue_eq_some_iff.mp known
    exact ⟨fact, survives, named, Ne.symm other⟩
  · rintro ⟨fact, survives, named, other⟩
    exact ⟨fact.key, named, fact.value, knownValue_eq_some_iff.mpr ⟨fact, survives, rfl, rfl⟩,
      Ne.symm other⟩

theorem marked_flag_exact :
    ((hit.marked facts eligible).conflictsWithKnowledge = true ↔
      ∃ fact ∈ facts, Contradicts fact hit.entry) ↔ ¬Hidden facts hit.entry := by
  rw [marked_flag]
  constructor
  · rintro exact' ⟨contradicted, hidden⟩
    obtain ⟨fact, survives, contradicts⟩ := exact'.mpr contradicted
    exact hidden fact survives contradicts
  · intro shown
    refine ⟨fun ⟨fact, survives, contradicts⟩ => ⟨fact, survives.mem, contradicts⟩, ?_⟩
    intro contradicted
    by_contra none'
    exact shown ⟨contradicted, fun fact survives contradicts =>
      none' ⟨fact, survives, contradicts⟩⟩

theorem mem_marked_conflicts {id : MemoryEntryId} :
    id ∈ (hit.marked facts eligible).conflictingEntryIds ↔
      ∃ other ∈ eligible, other.id = id ∧ other.id ≠ hit.entry.id ∧ Disagree hit.entry other := by
  unfold MemoryHit.marked
  simp only [List.mem_map, List.mem_filter, decide_eq_true_eq]
  constructor
  · rintro ⟨other, ⟨mem, apart, disagree⟩, same⟩
    exact ⟨other, mem, same, apart, disagree⟩
  · rintro ⟨other, mem, same, apart, disagree⟩
    exact ⟨other, ⟨mem, apart, disagree⟩, same⟩

end Marks

/-! ## The hits of a retrieval -/

theorem checkHits_eq_ok {eligible : List MemoryEntry} {seen : List MemoryEntryId}
    {hits : List MemoryHit} (h : checkHits eligible seen hits = .ok ()) :
    ∀ hit ∈ hits, hit.entry ∈ eligible := by
  induction hits generalizing seen with
  | nil => exact fun _ mem => (List.not_mem_nil mem).elim
  | cons first rest ih =>
      unfold checkHits at h
      split at h
      · cases h
      · next passed =>
          intro hit mem
          rcases List.mem_cons.mp mem with rfl | later
          · exact not_not.mp (not_or.mp passed).1
          · exact ih h hit later

/-- The hits of a result that passed are eligible entries. -/
theorem validated_eligible {query : MemoryQuery} {result : MemoryRetrievalResult}
    {eligible : List MemoryEntry} (h : validateMemoryResult query result eligible = .ok ()) :
    ∀ hit ∈ result.hits, hit.entry ∈ eligible := by
  unfold validateMemoryResult at h
  split at h
  · cases h
  · exact checkHits_eq_ok h

/-- Dropping hits from the end leaves the first ones. -/
theorem fitHits_prefix (maxChars fuel : Nat) (hits : List MemoryHit) :
    fitHits maxChars fuel hits <+: hits := by
  induction fuel generalizing hits with
  | zero => exact List.prefix_rfl
  | succ fuel ih =>
      unfold fitHits
      split
      · exact (ih hits.dropLast).trans (List.dropLast_prefix hits)
      · exact List.prefix_rfl

/-- With distinct identifiers the validated hits list exactly the entries that disagree. -/
theorem markConflicts_listed {facts : List Fact} {result : MemoryRetrievalResult}
    {eligible : List MemoryEntry}
    (unique : ∀ e ∈ eligible, ∀ e' ∈ eligible, e.id = e'.id → e = e')
    (inside : ∀ hit ∈ result.hits, hit.entry ∈ eligible) :
    ListedExactly eligible (markConflicts facts result eligible).hits := by
  -- What lists an eligible entry disagrees with that entry itself.
  have lists : ∀ hit ∈ result.hits, ∀ hit' ∈ result.hits,
      hit'.entry.id ∈ (hit.marked facts eligible).conflictingEntryIds →
        hit.entry.id ∈ (hit'.marked facts eligible).conflictingEntryIds := by
    intro hit mem hit' mem' listed
    obtain ⟨other, eligible', same, apart, disagree⟩ := mem_marked_conflicts.mp listed
    obtain rfl := unique other eligible' _ (inside hit' mem') same
    exact mem_marked_conflicts.mpr
      ⟨hit.entry, inside hit mem, rfl, Ne.symm apart, disagree.symm⟩
  constructor
  · intro marked mem id
    obtain ⟨hit, found, rfl⟩ := List.mem_map.mp mem
    exact mem_marked_conflicts
  · intro marked mem marked' mem'
    obtain ⟨hit, found, rfl⟩ := List.mem_map.mp mem
    obtain ⟨hit', found', rfl⟩ := List.mem_map.mp mem'
    exact ⟨lists hit found hit' found', lists hit' found' hit found⟩

/-- With distinct identifiers the marks of validated hits are exact exactly when no
contradiction is hidden. -/
theorem markConflicts_exact {facts : List Fact} {result : MemoryRetrievalResult}
    {eligible : List MemoryEntry}
    (unique : ∀ e ∈ eligible, ∀ e' ∈ eligible, e.id = e'.id → e = e')
    (inside : ∀ hit ∈ result.hits, hit.entry ∈ eligible) :
    MarkedExactly facts eligible (markConflicts facts result eligible).hits ↔
      ∀ hit ∈ result.hits, ¬Hidden facts hit.entry := by
  constructor
  · intro marked hit mem
    exact marked_flag_exact.mp (marked.flags _ (List.mem_map_of_mem mem))
  · intro shown
    refine ⟨markConflicts_listed unique inside, ?_⟩
    intro marked mem
    obtain ⟨hit, found, rfl⟩ := List.mem_map.mp mem
    exact marked_flag_exact.mpr (shown hit found)

/-- The entries of one workspace have different identifiers. -/
theorem eligibleIn_unique {platform : MemoryPlatform} {w : World MemoryStore}
    {workspaceId : WorkspaceId} {query : MemoryQuery} :
    ∀ e ∈ eligibleIn platform w workspaceId query,
      ∀ e' ∈ eligibleIn platform w workspaceId query, e.id = e'.id → e = e' := by
  intro e mem e' mem' same
  have stored := (List.mem_filter.mp (List.mem_filter.mp mem).1).1
  have stored' := (List.mem_filter.mp (List.mem_filter.mp mem').1).1
  exact Registry.eq_of_key stored stored' same

/-- The marks of a retrieval. The hits of the pack are the first of the marked hits, and the lists
of conflicting entries are exact. All marks are exact exactly when, for every hit that the
evidence contradicts, a fact that is the last of its key does. -/
theorem conflict_flags (platform : MemoryPlatform) (w w' : World MemoryStore)
    (workspaceId : WorkspaceId) (runId : AgentRunId) (expected : Version) (query : MemoryQuery)
    (pack : MemoryContextPack)
    (h : retrieve platform workspaceId runId expected query w = .ok pack w') :
    ∃ run facts result,
      let eligible := eligibleIn platform w workspaceId query
      let marked := (markConflicts facts result eligible).hits
      Retrieved platform w workspaceId runId query pack run facts result ∧
        pack.result.hits <+: marked ∧ ListedExactly eligible marked ∧
        (MarkedExactly facts eligible marked ↔ ∀ hit ∈ result.hits, ¬Hidden facts hit.entry) := by
  obtain ⟨⟨run, facts, result, seen⟩, -⟩ := retrieve_eq_ok h
  have inside := validated_eligible seen.validated
  refine ⟨run, facts, result, seen, ?_, markConflicts_listed eligibleIn_unique inside,
    markConflicts_exact eligibleIn_unique inside⟩
  obtain ⟨id, packed⟩ := seen.packed
  obtain ⟨-, -, -, hits⟩ := memoryPackOf_fields packed
  rw [hits]
  exact fitHits_prefix _ _ _

section Sample

def wholeWorkspace : MemoryScope := ⟨.workspace, py "*"⟩

def planSourceId (n : Nat) : KnowledgeSourceId := numbered .knowledgeSource n

/-- A source that states a plan. -/
def planSource (n : Nat) : KnowledgeSource :=
  ⟨planSourceId n, sampleWorkspace, py "plans", .structuredFacts, .authoritative, 0, .initial,
    .initial, .active⟩

def planFact (plan : String) : KnowledgeFact := ⟨py "plan", py plan⟩

def planVersion (n : Nat) (plan : String) : KnowledgeSourceVersion :=
  ⟨planSource n, ⟨py plan, some (py "acme"), [planFact plan]⟩, py "digest", 0, .default⟩

def planChunk (n : Nat) (plan : String) : KnowledgeChunk :=
  ⟨numbered .knowledgeChunk n, sampleWorkspace, planSourceId n, .initial, 0,
    py "acme\nplan: " ++ py plan, py "digest", some (planFact plan)⟩

def planCandidate (n : Nat) (plan : String) : EvidenceCandidate :=
  ⟨planChunk n plan, py "plans", .authoritative, 0, 1⟩

/-- An agent with both sources and the memory of the workspace. -/
def plannerDefinition : AgentDefinitionVersion :=
  { senderDefinition with
    knowledgeSources := [planSourceId 1, planSourceId 2]
    knowledgeTrust := [.authoritative]
    memoryScopes := [wholeWorkspace] }

/-- The evidence of a run: one source says silver, the next one gold. -/
def planPack : EvidencePack :=
  ⟨numbered .evidencePack 1, sampleWorkspace, numbered .agentRun 21,
    ⟨sampleWorkspace, py "plan", [], [], 5, 6000, 2⟩,
    ⟨[planCandidate 1 "silver", planCandidate 2 "gold"], 2, false, py "lexical-overlap", 1⟩, 1⟩

/-- A run that works with the evidence. -/
def plannerRun : AgentRun where
  toRunFields := { statedFields with
    id := numbered .agentRun 21
    definitionVersion := plannerDefinition
    status := .running
    workingState := { AgentWorkingState.initial with activeEvidencePackId := some planPack.id }
    endedAt := none
    result := none }
  valid := ⟨by decide, by decide, by decide, by decide, by decide, by decide, by decide⟩

/-- A workspace with a run that has succeeded, a run that works, and its evidence. -/
def plannerStore : RuntimeStore :=
  { (Sys.after numberedPlatform
      [.command (.domain (.createWorkspace (py "acme")))]).store with
    runs := (Registry.empty.put statedRun).put plannerRun
    knowledgeSources := (Registry.empty.put (planSource 1)).put (planSource 2)
    knowledgeVersions := (Registry.empty.put (planVersion 1 "silver")).put (planVersion 2 "gold")
    knowledgeChunks := (Registry.empty.put
        ⟨planSourceId 1, .initial, [planChunk 1 "silver"]⟩).put
      ⟨planSourceId 2, .initial, [planChunk 2 "gold"]⟩
    evidencePacks := Registry.empty.put planPack }

/-- The memory that the customer has the gold plan, proposed and approved. -/
def rememberPlan : List Label := [
  .elsewhere plannerStore 100 1,
  .call (.propose (statedProposal (py "plan") (py "gold"))),
  .call (.approve sampleWorkspace (numbered .memoryCandidate 100) (changed 1) (py "reviewer")
    none)]

def planQuery : MemoryQuery where
  workspaceId := sampleWorkspace
  subject := py "customer"
  text := py "plan"
  scopes := [wholeWorkspace]
  sensitivities := [.normal]
  topK := 5
  maxContextChars := 4000
  texts := by decide
  scopesBound := by decide
  sensitive := by decide
  limits := by decide

/-- The retrieval of the run returns a hit that the evidence contradicts, without a flag. -/
def unflagged (w : World MemoryStore) : Bool :=
  match retrieve samplePlatform sampleWorkspace plannerRun.id plannerRun.version planQuery w,
    knowledgeEvidence samplePlatform plannerRun w with
  | .ok pack _, .ok facts _ => Decidable.decide (∃ hit ∈ pack.result.hits,
      hit.conflictsWithKnowledge = false ∧ ∃ fact ∈ facts, Contradicts fact hit.entry)
  | _, _ => false

theorem unflagged_iff {w : World MemoryStore} (h : unflagged w = true) :
    ∃ pack w' facts,
      retrieve samplePlatform sampleWorkspace plannerRun.id plannerRun.version planQuery w =
        .ok pack w' ∧
      knowledgeEvidence samplePlatform plannerRun w = .ok facts w ∧
      ∃ hit ∈ pack.result.hits,
        hit.conflictsWithKnowledge = false ∧ ∃ fact ∈ facts, Contradicts fact hit.entry := by
  unfold unflagged at h
  split at h
  · next pack w' facts v retrieved known =>
      obtain rfl := (reads_knowledgeEvidence plannerRun).world_eq known
      exact ⟨pack, w', facts, retrieved, known, of_decide_eq_true h⟩
  · cases h

/-- The first source of the evidence says silver, the memory and the last source say gold:
the hit is not flagged, although a fact of the evidence contradicts it. -/
theorem older_fact_unflagged :
    ∃ pack w' facts,
      let w := after samplePlatform rememberPlan
      retrieve samplePlatform sampleWorkspace plannerRun.id plannerRun.version planQuery w =
          .ok pack w' ∧
        knowledgeEvidence samplePlatform plannerRun w = .ok facts w ∧
        ¬∀ hit ∈ pack.result.hits,
          (hit.conflictsWithKnowledge = true ↔ ∃ fact ∈ facts, Contradicts fact hit.entry) := by
  obtain ⟨pack, w', facts, retrieved, known, hit, mem, unmarked, contradicted⟩ :=
    unflagged_iff (w := after samplePlatform rememberPlan) (by decide +kernel)
  refine ⟨pack, w', facts, retrieved, known, fun exact' => ?_⟩
  have flagged := (exact' hit mem).mpr contradicted
  rw [unmarked] at flagged
  cases flagged

/-- The evidence in the other order: gold, and then silver. -/
def turnedPack : EvidencePack :=
  { planPack with
    result := ⟨[planCandidate 2 "gold", planCandidate 1 "silver"], 2, false,
      py "lexical-overlap", 1⟩ }

/-- The same memory beside the turned evidence. -/
def rememberTurned : List Label := [
  .elsewhere { plannerStore with evidencePacks := Registry.empty.put turnedPack } 100 1,
  .call (.propose (statedProposal (py "plan") (py "gold"))),
  .call (.approve sampleWorkspace (numbered .memoryCandidate 100) (changed 1) (py "reviewer")
    none)]

/-- The retrieval returns every hit of the retriever, and each with the flag. -/
def flagged (w : World MemoryStore) : Bool :=
  match retrieve samplePlatform sampleWorkspace plannerRun.id plannerRun.version planQuery w,
    samplePlatform.retriever planQuery (eligibleIn samplePlatform w sampleWorkspace planQuery) with
  | .ok pack _, .ok result => Decidable.decide (result.hits ≠ [] ∧
      pack.result.hits.length = result.hits.length ∧
      ∀ hit ∈ pack.result.hits, hit.conflictsWithKnowledge = true)
  | _, _ => false

theorem flagged_iff {w : World MemoryStore} (h : flagged w = true) :
    ∃ pack w' result,
      retrieve samplePlatform sampleWorkspace plannerRun.id plannerRun.version planQuery w =
        .ok pack w' ∧
      samplePlatform.retriever planQuery (eligibleIn samplePlatform w sampleWorkspace planQuery) =
        .ok result ∧
      result.hits ≠ [] ∧ pack.result.hits.length = result.hits.length ∧
      ∀ hit ∈ pack.result.hits, hit.conflictsWithKnowledge = true := by
  unfold flagged at h
  split at h
  · next pack w' result retrieved answered =>
      exact ⟨pack, w', result, retrieved, answered, of_decide_eq_true h⟩
  · cases h

/-- The last source of the evidence contradicts the memory: the hit is flagged, although the
first source agrees with it, and all marks are exact. -/
theorem plan_retrieved :
    ∃ pack w' run facts result,
      let w := after samplePlatform rememberTurned
      let eligible := eligibleIn samplePlatform w sampleWorkspace planQuery
      let marked := (markConflicts facts result eligible).hits
      Retrieved samplePlatform w sampleWorkspace plannerRun.id planQuery pack run facts result ∧
        retrieve samplePlatform sampleWorkspace plannerRun.id plannerRun.version planQuery w =
          .ok pack w' ∧
        result.hits ≠ [] ∧ (∀ hit ∈ result.hits, ∃ fact ∈ facts, Contradicts fact hit.entry) ∧
        ListedExactly eligible marked ∧ MarkedExactly facts eligible marked := by
  obtain ⟨pack, w', answer, retrieved, answered, nonempty, whole, flags⟩ :=
    flagged_iff (w := after samplePlatform rememberTurned) (by decide +kernel)
  obtain ⟨run, facts, result, seen, first, listed, exact'⟩ :=
    conflict_flags _ _ _ _ _ _ _ _ retrieved
  obtain rfl : answer = result := Except.ok.inj (answered.symm.trans seen.answered)
  -- The pack holds every marked hit, so that all of them have the flag.
  have same := first.eq_of_length (whole.trans (List.length_map _).symm)
  have contradicted : ∀ hit ∈ answer.hits, ∃ fact,
      Registry.Survives Fact.key facts fact ∧ Contradicts fact hit.entry := by
    intro hit mem
    have kept : hit.marked facts (eligibleIn samplePlatform (after samplePlatform rememberTurned)
        sampleWorkspace planQuery) ∈ pack.result.hits := by
      rw [same]
      exact List.mem_map_of_mem mem
    exact marked_flag.mp (flags _ kept)
  refine ⟨pack, w', run, facts, answer, seen, retrieved, nonempty, ?_, listed, exact'.mpr ?_⟩
  · intro hit mem
    obtain ⟨fact, survives, contradicts⟩ := contradicted hit mem
    exact ⟨fact, survives.mem, contradicts⟩
  · intro hit mem hidden
    obtain ⟨fact, survives, contradicts⟩ := contradicted hit mem
    exact hidden.2 fact survives contradicts

end Sample

end AgentCompanyOS.Memory
