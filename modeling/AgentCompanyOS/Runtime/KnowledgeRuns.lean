import AgentCompanyOS.Runtime.Completion

/-!
# Sources and packs over whole runs

A step of the system changes the knowledge records in one of three ways, or not at all: it
files the next version of a source, it disables a source, or it saves a pack.
`KnowledgeChange` says so, with what the checks have established in the store before the
step. From it follow the lineage of every source, that what is filed is never written
again, and where every stored pack comes from.
-/

set_option autoImplicit false

namespace AgentCompanyOS.Runtime

open Foundation Foundation.Txn Domain

/-! ## The tables -/

/-- The knowledge records without their events. -/
structure KnowledgeTables where
  sources : Registry KnowledgeSource.id
  versions : Registry KnowledgeSourceVersion.key
  chunks : Registry ChunkSet.key
  packs : Registry EvidencePack.id

def RuntimeStore.tables (s : RuntimeStore) : KnowledgeTables :=
  ⟨s.knowledgeSources, s.knowledgeVersions, s.knowledgeChunks, s.evidencePacks⟩

/-- The chunks of a version as they are filed. -/
def KnowledgeSourceVersion.cutInto (version : KnowledgeSourceVersion)
    (chunks : List KnowledgeChunk) : ChunkSet :=
  ⟨version.source.id, version.source.contentVersion, chunks⟩

/-- The tables with a published version. -/
def KnowledgeTables.publish (t : KnowledgeTables) (version : KnowledgeSourceVersion)
    (chunks : List KnowledgeChunk) : KnowledgeTables :=
  ⟨t.sources.put version.source, t.versions.put version, t.chunks.put (version.cutInto chunks),
    t.packs⟩

/-- A source that has been disabled. -/
def KnowledgeSource.disabled (source : KnowledgeSource) : KnowledgeSource :=
  { source with version := source.version.next, status := .disabled }

/-! ## What the checks have established -/

/-- What `publish` has found out about a source: it is active and this is its successor, or
it is new. -/
inductive Succeeds (t : KnowledgeTables) (source : KnowledgeSource) : Prop
  | next (previous : KnowledgeSource) (found : t.sources.get? source.id = some previous)
      (active : previous.status = .active) (successor : source = previous.successor)
  | first (absent : t.sources.get? source.id = none) (version : source.version = .initial)
      (content : source.contentVersion = .initial) (active : source.status = .active)
      (room : (t.sources.values.filter (·.workspaceId = source.workspaceId)).length < 100)

/-- What `publish` has found out about a version and its chunks. -/
structure Publishable (platform : Platform) (t : KnowledgeTables)
    (version : KnowledgeSourceVersion) (chunks : List KnowledgeChunk) : Prop where
  succeeds : Succeeds t version.source
  absent : t.versions.get? version.key = none
  bounded : version.source.contentVersion.value ≤ 20
  cut : chunkContent platform version = .ok chunks

/-- A candidate is evidence of an active source in scope, at its current version. -/
structure Evident (t : KnowledgeTables) (pack : EvidencePack) (d : AgentDefinitionVersion)
    (candidate : EvidenceCandidate) : Prop where
  source : ∃ source, t.sources.get? candidate.chunk.sourceId = some source ∧
    source.workspaceId = pack.workspaceId ∧ source.status = .active ∧
    source.contentVersion = candidate.chunk.sourceVersion ∧
    source.id ∈ d.knowledgeSources ∧ source.trust ∈ d.knowledgeTrust ∧
    source.id ∈ pack.query.sources d ∧ source.trust ∈ pack.query.trust d
  chunk : ∃ set,
    t.chunks.get? (candidate.chunk.sourceId, candidate.chunk.sourceVersion) = some set ∧
    candidate.chunk ∈ set.chunks
  version : ∃ version,
    t.versions.get? (candidate.chunk.sourceId, candidate.chunk.sourceVersion) = some version ∧
    candidate.sourceName = version.source.name ∧ candidate.trust = version.source.trust ∧
    candidate.sourceCreatedAt = version.createdAt
  workspace : candidate.chunk.workspaceId = pack.workspaceId
  positive : 0 < candidate.score

/-- The same content of one source. -/
def sameContent (a b : EvidenceCandidate) : Prop :=
  a.chunk.sourceId = b.chunk.sourceId ∧ a.chunk.contentHash = b.chunk.contentHash

/-- No content twice, and no more of a source than the query allows. -/
structure Diverse (query : KnowledgeQuery) (candidates : List EvidenceCandidate) : Prop where
  distinct : candidates.Pairwise fun a b => ¬sameContent a b
  few : ∀ id, (candidates.filter (·.chunk.sourceId = id)).length ≤ query.maxPerSource

/-- What `save_pack` has found out about a pack and its run. -/
structure Packable (platform : Platform) (s : RuntimeStore) (pack : EvidencePack)
    (run : AgentRun) : Prop where
  stored : s.runs.get? pack.runId = some run
  workspace : run.workspaceId = pack.workspaceId
  query : pack.query.workspaceId = pack.workspaceId
  fresh : s.tables.packs.get? pack.id = none
  room : (s.tables.packs.values.filter fun p =>
    p.workspaceId = pack.workspaceId ∧ p.runId = pack.runId).length < 5
  fits : ∃ size, pack.contextChars platform.scoreText = .ok size ∧
    size ≤ pack.query.maxContextChars
  idle : run.status = .running ∧ run.workingState.invocationPending = false
  timely : run.createdAt ≤ pack.createdAt ∧ pack.createdAt < run.deadline
  inScope : pack.query.inScope run.definitionVersion
  evident : ∀ candidate ∈ pack.result.candidates,
    Evident s.tables pack run.definitionVersion candidate
  diverse : Diverse pack.query pack.result.candidates

section Checks

variable {platform : Platform} {w w' : World RuntimeStore} {u : Unit}

theorem getSource_eq_ok {workspaceId : WorkspaceId} {sourceId : KnowledgeSourceId}
    {source : KnowledgeSource} (h : getSource workspaceId sourceId w = .ok source w') :
    w.store.knowledgeSources.get? sourceId = some source ∧ source.workspaceId = workspaceId := by
  have h := getStore_then h
  obtain ⟨stored, found, h⟩ := need_then h
  obtain ⟨own, h⟩ := raiseIf_then h
  obtain ⟨rfl, -⟩ := pure_eq_ok.mp h
  exact ⟨found, not_not.mp own⟩

theorem getSourceVersion_eq_ok {workspaceId : WorkspaceId} {sourceId : KnowledgeSourceId}
    {number : Version} {version : KnowledgeSourceVersion}
    (h : getSourceVersion workspaceId sourceId number w = .ok version w') :
    w.store.knowledgeVersions.get? (sourceId, number) = some version := by
  obtain ⟨_, -, h⟩ := (reads_getSource _ _).then h
  have h := getStore_then h
  exact (need_eq_ok.mp h).1

theorem getChunks_eq_ok {workspaceId : WorkspaceId} {sourceId : KnowledgeSourceId}
    {number : Version} {chunks : List KnowledgeChunk}
    (h : getChunks workspaceId sourceId number w = .ok chunks w') :
    ∃ set, w.store.knowledgeChunks.get? (sourceId, number) = some set ∧ set.chunks = chunks := by
  obtain ⟨_, -, h⟩ := (reads_getSourceVersion _ _ _).then h
  have h := getStore_then h
  obtain ⟨set, found, h⟩ := need_then h
  exact ⟨set, found, (pure_eq_ok.mp h).1⟩

theorem getRun_of_found {workspaceId : WorkspaceId} {runId : AgentRunId} {run : AgentRun}
    (found : w.store.runs.get? runId = some run) (own : run.workspaceId = workspaceId) :
    getRun workspaceId runId w = .ok run w := by
  unfold getRun
  rw [bind_getStore, bind_of_ok (need_of_some found w)]
  exact bind_of_ok (raiseIf_of_not (not_not.mpr own.symm) w) _

theorem getSource_of_found {workspaceId : WorkspaceId} {sourceId : KnowledgeSourceId}
    {source : KnowledgeSource} (found : w.store.knowledgeSources.get? sourceId = some source)
    (own : source.workspaceId = workspaceId) : getSource workspaceId sourceId w = .ok source w := by
  unfold getSource
  rw [bind_getStore, bind_of_ok (need_of_some found w)]
  exact bind_of_ok (raiseIf_of_not (not_not.mpr own) w) _

theorem getSourceVersion_of_found {workspaceId : WorkspaceId} {sourceId : KnowledgeSourceId}
    {source : KnowledgeSource} {number : Version} {version : KnowledgeSourceVersion}
    (found : w.store.knowledgeSources.get? sourceId = some source)
    (own : source.workspaceId = workspaceId)
    (stored : w.store.knowledgeVersions.get? (sourceId, number) = some version) :
    getSourceVersion workspaceId sourceId number w = .ok version w := by
  unfold getSourceVersion
  rw [bind_of_ok (getSource_of_found found own), bind_getStore]
  exact need_of_some stored w

theorem getChunks_of_found {workspaceId : WorkspaceId} {sourceId : KnowledgeSourceId}
    {source : KnowledgeSource} {number : Version} {version : KnowledgeSourceVersion}
    {set : ChunkSet} (found : w.store.knowledgeSources.get? sourceId = some source)
    (own : source.workspaceId = workspaceId)
    (stored : w.store.knowledgeVersions.get? (sourceId, number) = some version)
    (filed : w.store.knowledgeChunks.get? (sourceId, number) = some set) :
    getChunks workspaceId sourceId number w = .ok set.chunks w := by
  unfold getChunks
  rw [bind_of_ok (getSourceVersion_of_found found own stored), bind_getStore,
    bind_of_ok (need_of_some filed w)]
  rfl

theorem forEach_of_ok {α : Type} {xs : List α} {f : α → RuntimeTxn Unit}
    (h : ∀ x ∈ xs, f x w = .ok () w) : forEach xs f w = .ok () w := by
  induction xs with
  | nil => rfl
  | cons x rest ih =>
      have first := h x List.mem_cons_self
      have others := ih fun y mem => h y (List.mem_cons_of_mem _ mem)
      exact (bind_of_ok first _).trans others

theorem checkPublished_eq_ok {source : KnowledgeSource} {expected : Option Version}
    (h : checkPublished source expected w = .ok u w') : Succeeds w.store.tables source := by
  have h := getStore_then h
  cases stored : w.store.knowledgeSources.get? source.id with
  | some other =>
      rw [stored] at h
      obtain ⟨previous, found, h⟩ := (reads_getSource _ _).then h
      obtain ⟨-, h⟩ := raiseIf_then h
      obtain ⟨lineage, -⟩ := raiseIf_eq_ok.mp h
      simp only [not_or, not_not] at lineage
      exact .next previous (getSource_eq_ok found).1 lineage.2 lineage.1
  | none =>
      rw [stored] at h
      obtain ⟨initial, h⟩ := raiseIf_then h
      obtain ⟨room, -⟩ := raiseIf_eq_ok.mp h
      simp only [not_or, not_not] at initial
      exact .first stored initial.2.1 initial.2.2.1 initial.2.2.2 (Nat.lt_of_not_le room)

theorem checkPublish_eq_ok {version : KnowledgeSourceVersion} {chunks : List KnowledgeChunk}
    {expected : Option Version} (h : checkPublish platform version chunks expected w = .ok u w') :
    Publishable platform w.store.tables version chunks := by
  obtain ⟨_, -, h⟩ := (reads_getWorkspace _).then h
  obtain ⟨_, succeeds, h⟩ := (reads_checkPublished _ _).then h
  have h := getStore_then h
  obtain ⟨history, h⟩ := raiseIf_then h
  obtain ⟨cut, computed, h⟩ := ofExcept_then h
  obtain ⟨same, -⟩ := raiseIf_eq_ok.mp h
  simp only [not_or, Bool.not_eq_true] at history
  obtain rfl := not_not.mp same
  exact ⟨checkPublished_eq_ok succeeds, Registry.contains_eq_false_iff.mp history.1,
    Nat.le_of_not_lt history.2, computed⟩

/-- A candidate is checked after those before it. -/
theorem Diverse.concat {query : KnowledgeQuery} {before : List EvidenceCandidate}
    {candidate : EvidenceCandidate} (h : Diverse query before)
    (new : ∀ c ∈ before, ¬sameContent c candidate)
    (few : (before.filter (·.chunk.sourceId = candidate.chunk.sourceId)).length <
      query.maxPerSource) : Diverse query (before ++ [candidate]) := by
  refine ⟨?_, ?_⟩
  · rw [List.pairwise_append]
    refine ⟨h.distinct, List.pairwise_singleton _ _, ?_⟩
    intro c mem d here
    rw [List.mem_singleton.mp here]
    exact new c mem
  · intro id
    rw [List.filter_append, List.length_append]
    by_cases same : candidate.chunk.sourceId = id
    · subst same
      simp only [List.filter_cons, decide_true, if_true, List.filter_nil, List.length_singleton]
      omega
    · simp only [List.filter_cons, same, decide_false, Bool.false_eq_true, if_false,
        List.filter_nil, List.length_nil, Nat.add_zero]
      exact h.few id

theorem checkPackCandidates_eq_ok {pack : EvidencePack} {d : AgentDefinitionVersion}
    {candidates : List EvidenceCandidate} : ∀ {before : List EvidenceCandidate},
    Diverse pack.query before → checkPackCandidates pack d before candidates w = .ok u w' →
    (∀ candidate ∈ candidates, Evident w.store.tables pack d candidate) ∧
      Diverse pack.query (before ++ candidates) := by
  induction candidates with
  | nil =>
      intro before diverse h
      rw [List.append_nil]
      exact ⟨fun _ mem => (List.not_mem_nil mem).elim, diverse⟩
  | cons candidate rest ih =>
      intro before diverse h
      obtain ⟨source, found, h⟩ := (reads_getSource _ _).then h
      obtain ⟨version, numbered, h⟩ := (reads_getSourceVersion _ _ _).then h
      obtain ⟨bound, h⟩ := raiseIf_then h
      obtain ⟨chunks, listed, h⟩ := (reads_getChunks _ _ _).then h
      obtain ⟨set, foundSet, rfl⟩ := getChunks_eq_ok listed
      obtain ⟨shown, h⟩ := raiseIf_then h
      obtain ⟨apart, h⟩ := raiseIf_then h
      obtain ⟨foundSource, own⟩ := getSource_eq_ok found
      have key : KnowledgeSource.id source = candidate.chunk.sourceId :=
        Registry.key_of_get? foundSource
      simp only [not_or, not_not] at bound shown apart
      obtain ⟨workspace, granted, trust, active, current, filtered, trusted⟩ := bound
      obtain ⟨same, few, positive⟩ := apart
      have evident : Evident w.store.tables pack d candidate := by
        refine ⟨⟨source, foundSource, own, active, current, ?_, trust, filtered, trusted⟩, ?_,
          ⟨version, getSourceVersion_eq_ok numbered, shown.2⟩, workspace, Rat.not_le.mp positive⟩
        · rw [key]
          exact granted
        · rw [← key]
          exact ⟨set, foundSet, shown.1⟩
      have grown : Diverse pack.query (before ++ [candidate]) := by
        refine diverse.concat ?_ ?_
        · rintro c mem ⟨id, hash⟩
          refine same (List.any_eq_true.mpr ⟨c, mem, ?_⟩)
          simp only [decide_eq_true_eq]
          exact ⟨id.trans key.symm, hash⟩
        · rw [key] at few
          omega
      obtain ⟨others, whole⟩ := ih grown h
      rw [List.append_assoc] at whole
      refine ⟨?_, whole⟩
      intro c mem
      rcases List.mem_cons.mp mem with rfl | mem
      · exact evident
      · exact others c mem

theorem checkPack_eq_ok {pack : EvidencePack} (h : checkPack platform pack w = .ok u w') :
    ∃ run, Packable platform w.store pack run := by
  obtain ⟨run, found, own, h⟩ := getRun_then h
  have h := getStore_then h
  obtain ⟨identity, h⟩ := raiseIf_then h
  have h := lookup_then (reads_getRun _ _) h
  obtain ⟨room, h⟩ := raiseIf_then h
  obtain ⟨size, measured, h⟩ := ofExcept_then h
  obtain ⟨state, h⟩ := raiseIf_then h
  obtain ⟨scope, h⟩ := raiseIf_then h
  have empty : Diverse pack.query [] := ⟨.nil, fun _ => Nat.zero_le _⟩
  obtain ⟨evident, diverse⟩ := checkPackCandidates_eq_ok empty h
  simp only [not_or, not_not, Bool.not_eq_true] at identity state scope
  obtain ⟨fits, running, idle, timely⟩ := state
  exact ⟨run, found, own, identity.2, Registry.contains_eq_false_iff.mp identity.1,
    Nat.lt_of_not_le room, ⟨size, measured, Nat.le_of_not_lt fits⟩, ⟨running, idle⟩, timely, scope,
    evident, diverse⟩

end Checks

/-! ## What a step does -/

/-- What a step of the system does to the knowledge records. -/
inductive KnowledgeChange (platform : Platform) (s s' : RuntimeStore) : Prop
  | same (tables : s'.tables = s.tables)
  | published (version : KnowledgeSourceVersion) (chunks : List KnowledgeChunk)
      (facts : Publishable platform s.tables version chunks)
      (tables : s'.tables = s.tables.publish version chunks)
  | disabled (source : KnowledgeSource) (found : s.tables.sources.get? source.id = some source)
      (active : source.status = .active)
      (tables : s'.tables = { s.tables with sources := s.tables.sources.put source.disabled })
  | packed (pack : EvidencePack) (run : AgentRun) (facts : Packable platform s pack run)
      (tables : s'.tables = { s.tables with packs := s.tables.packs.put pack })

/-- The tables stay as they are. -/
abbrev keepingTables : Guarantee RuntimeStore := Guarantee.framing RuntimeStore.tables

theorem Write.tables_eq {K : List Kind} {s s' : RuntimeStore} (h : Write K s s')
    (others : .knowledge ∉ K) : s'.tables = s.tables := by
  cases h <;> first | rfl | contradiction

/-- What writes no knowledge keeps the tables. -/
theorem moves_tables {K : List Kind} (others : .knowledge ∉ K) {α : Type} {m : RuntimeTxn α}
    (hm : Moves (writes K) m) : Moves keepingTables m :=
  hm.mono fun moved => writes_frame (fun write => write.tables_eq others) moved

theorem moves_sourceEvent_tables (env : Env) (source : KnowledgeSource) (kind : EventType)
    (metadata : List (String × PyStr)) :
    Moves keepingTables (sourceEvent env source kind metadata) :=
  (moves_fresh env _).bind fun _ => (moves_now env).bind fun _ =>
    (reads_checked _).moves.bind fun _ => (reads_checked _).moves.bind fun _ =>
    (reads_getSource _ _).moves.bind fun _ => Moves.getStore.bind fun _ =>
    (Moves.raiseIf _ _).bind fun _ => Moves.modifyStore fun _ => rfl

section Steps

variable {platform : Platform} {w w' : World RuntimeStore}

/-- A transaction that raises changes nothing. -/
theorem KnowledgeChange.atomic {α : Type} {m : RuntimeTxn α}
    (returns : ∀ {a w'}, m w = .ok a w' → KnowledgeChange platform w.store w'.store) :
    KnowledgeChange platform w.store (World.after (Txn.atomic m w)).store := by
  cases h : Txn.atomic m w with
  | ok a w' => exact returns (atomic_eq_ok.mp h)
  | error e w' => exact .same (congrArg RuntimeStore.tables (atomic_eq_error h))

/-- The value of a transaction makes no difference. -/
theorem KnowledgeChange.discard {α : Type} {m : RuntimeTxn α}
    (change : KnowledgeChange platform w.store (World.after (m w)).store) :
    KnowledgeChange platform w.store (World.after (Functor.discard m w)).store :=
  after_discard m w ▸ change

theorem publishContent_eq_ok {limits : IngestionLimits} {source : KnowledgeSource}
    {normalized : Except Exc NormalizedContent} {expected : Option Version} {u : Unit}
    (h : publishContent platform limits source normalized expected w = .ok u w') :
    ∃ version chunks, version.source = source ∧
      Publishable platform w.store.tables version chunks ∧
      w'.store.tables = w.store.tables.publish version chunks := by
  obtain ⟨content, -, h⟩ := ofExcept_then h
  obtain ⟨contentHash, -, h⟩ := ofExcept_then h
  obtain ⟨at', v, -, same, h⟩ := Idle.then (moves_now _) h
  obtain ⟨version, created, h⟩ := (reads_checked _).then h
  obtain ⟨chunks, -, h⟩ := ofExcept_then h
  obtain ⟨_, v', stored, h⟩ := bind_eq_ok.mp h
  obtain ⟨passed, rfl⟩ := checked_update_ok (reads_checkPublish _ _ _ _) stored
  have kept : w'.store.tables = (v.store.published version chunks).tables :=
    ((moves_sourceEvent_tables _ _ _ _).of_ok h).2
  obtain ⟨_, -, created⟩ := except_bind_ok (checked_eq_ok.mp created).1
  split at created
  · cases created
  · cases created
    rw [← same]
    exact ⟨_, chunks, rfl, checkPublish_eq_ok passed, kept⟩

theorem publishSource_change (limits : IngestionLimits) (command : PublishKnowledgeSource) :
    KnowledgeChange platform w.store
      (World.after (publishSource platform limits command w)).store := by
  refine .atomic fun {source w'} h => ?_
  obtain ⟨_, -, h⟩ := (reads_getWorkspace _).then h
  obtain ⟨id, v, -, first, h⟩ := Idle.then (moves_fresh _ _) h
  obtain ⟨createdAt, v', -, second, h⟩ := Idle.then (moves_now _) h
  obtain ⟨created, -, h⟩ := (reads_checked _).then h
  obtain ⟨_, v'', published, h⟩ := bind_eq_ok.mp h
  obtain ⟨version, chunks, -, facts, tables⟩ := publishContent_eq_ok published
  obtain ⟨-, rfl⟩ := pure_eq_ok.mp h
  rw [second, first] at facts tables
  exact .published version chunks facts tables

theorem publishSourceVersion_change (limits : IngestionLimits) (workspaceId : WorkspaceId)
    (sourceId : KnowledgeSourceId) (expected : Version)
    (normalized : Except Exc NormalizedContent) :
    KnowledgeChange platform w.store (World.after
      (publishSourceVersion platform limits workspaceId sourceId expected normalized w)).store := by
  refine .atomic fun {source w'} h => ?_
  obtain ⟨previous, -, h⟩ := (reads_getSource _ _).then h
  obtain ⟨_, v, published, h⟩ := bind_eq_ok.mp h
  obtain ⟨version, chunks, -, facts, tables⟩ := publishContent_eq_ok published
  obtain ⟨-, rfl⟩ := pure_eq_ok.mp h
  exact .published version chunks facts tables

theorem disableSource_change (env : Env) (workspaceId : WorkspaceId)
    (sourceId : KnowledgeSourceId) (expected : Version) :
    KnowledgeChange platform w.store
      (World.after (disableSource env workspaceId sourceId expected w)).store := by
  refine .atomic fun {source w'} h => ?_
  obtain ⟨updated, v, stored, h⟩ := bind_eq_ok.mp h
  have stored := atomic_eq_ok.mp stored
  obtain ⟨previous, found, stored⟩ := (reads_getSource _ _).then stored
  obtain ⟨-, stored⟩ := raiseIf_then stored
  obtain ⟨active, stored⟩ := raiseIf_then stored
  obtain ⟨_, v', put, stored⟩ := bind_eq_ok.mp stored
  obtain rfl := modifyStore_eq_ok.mp put
  obtain ⟨rfl, rfl⟩ := pure_eq_ok.mp stored
  obtain ⟨_, v, logged, h⟩ := bind_eq_ok.mp h
  have kept := ((moves_sourceEvent_tables _ _ _ _).of_ok logged).2
  obtain ⟨-, rfl⟩ := pure_eq_ok.mp h
  obtain ⟨foundSource, -⟩ := getSource_eq_ok found
  have key : KnowledgeSource.id previous = sourceId := Registry.key_of_get? foundSource
  refine .disabled previous ?_ (not_not.mp active) kept
  rw [key]
  exact foundSource

theorem retrievePack_change (retriever : Retriever) (workspaceId : WorkspaceId)
    (runId : AgentRunId) (expected : Version) (query : KnowledgeQuery) :
    KnowledgeChange platform w.store (World.after
      (retrievePack platform retriever workspaceId runId expected query w)).store := by
  refine .atomic fun {pack w'} h => ?_
  obtain ⟨run, -, -, h⟩ := getRun_then h
  obtain ⟨_, v1, -, same1, h⟩ := Idle.then (idle_checkRetrieval _ _ _ _) h
  obtain ⟨started, v2, -, same2, h⟩ := Idle.then (moves_now _) h
  obtain ⟨eligible, -, h⟩ := (reads_eligibleCandidates _ _ _).then h
  obtain ⟨result, -, h⟩ := ofExcept_then h
  obtain ⟨_, -, h⟩ := ofExcept_then h
  obtain ⟨made, v3, -, same3, h⟩ := Idle.then (idle_packOf _ _ _ _) h
  obtain ⟨_, v4, saved, h⟩ := bind_eq_ok.mp h
  obtain ⟨passed, rfl⟩ := checked_update_ok (reads_checkPack _ _) saved
  obtain ⟨owner, facts⟩ := checkPack_eq_ok passed
  -- What follows the save writes the run and its events only.
  have others : Kind.knowledge ∉ [Kind.run, Kind.audit] := by simp
  obtain ⟨at', v5, -, same5, h⟩ := Idle.then (moves_now _) h
  obtain ⟨updated, -, h⟩ := (reads_checked _).then h
  obtain ⟨_, v6, -, kept6, h⟩ := Moves.then (moves_tables others (moves_saveRun _ _ _)) h
  obtain ⟨ended, v7, -, same7, h⟩ := Idle.then (moves_now _) h
  obtain ⟨chars, -, h⟩ := ofExcept_then h
  obtain ⟨_, v8, -, kept8, h⟩ := Moves.then (moves_tables others (moves_runEvent _ _ _ _)) h
  obtain ⟨_, v9, -, kept9, h⟩ := Moves.then (moves_tables others (moves_runEvent _ _ _ _)) h
  obtain ⟨-, rfl⟩ := pure_eq_ok.mp h
  have start : v3.store = w.store := same3.trans (same2.trans same1)
  have kept6 : v6.store.tables = v5.store.tables := kept6
  have kept8 : v8.store.tables = v7.store.tables := kept8
  have kept9 : v9.store.tables = v8.store.tables := kept9
  rw [start] at facts
  refine .packed made owner facts ?_
  rw [kept9, kept8, same7, kept6, same5]
  show { v3.store.tables with packs := v3.store.tables.packs.put made } = _
  rw [start]

theorem retrieveKnowledge_change (retriever : Retriever) (workspaceId : WorkspaceId)
    (runId : AgentRunId) (expected : Version) (query : KnowledgeQuery) :
    KnowledgeChange platform w.store (World.after
      (retrieveKnowledge platform retriever workspaceId runId expected query w)).store := by
  have change : KnowledgeChange platform w.store (World.after
      (retrievePack platform retriever workspaceId runId expected query w)).store :=
    retrievePack_change retriever workspaceId runId expected query
  unfold retrieveKnowledge catching
  cases h : retrievePack platform retriever workspaceId runId expected query w with
  | ok pack v =>
      rw [h] at change
      exact change
  | error e v =>
      -- The rejection is logged after the rollback.
      have back : v.store = w.store := atomic_eq_error h
      have kept :
          (World.after (rejectRetrieval platform.toEnv workspaceId runId e v)).store.tables =
          v.store.tables :=
        (moves_tables (K := [.audit]) (by simp)
          (moves_rejectRetrieval platform.toEnv workspaceId runId e) v).2
      refine .same ?_
      rw [← back]
      exact kept

/-- No call in flight writes knowledge. -/
theorem Point.kinds_knowledge (point : Point) : .knowledge ∉ point.kinds := by
  cases point <;> simp [Point.kinds]

theorem Operated.tables_eq {s s' : RuntimeStore} (change : Operated s s') :
    s'.tables = s.tables := by
  obtain ⟨o, rfl⟩ := change.tables
  rfl

theorem advance_tables (shared : Shared) (call : Call) (input : Input) :
    (shared.advance platform call input).shared.world.store.tables =
      shared.world.store.tables := by
  cases advance_effect platform shared call input with
  | wrote later moved =>
      exact writes_frame (fun write => write.tables_eq call.point.kinds_knowledge) moved
  | dispatched workspaceId runId action expected at' later d governed v same facts =>
      obtain ⟨id, host, point, frames⟩ := call
      obtain rfl : point = .invoke workspaceId runId action expected := at'
      cases input with
      | next =>
          exact (moves_tables (by simp) (moves_invokeClaim (K := claimKinds) platform host
            workspaceId runId action expected) shared.world).2
      | _ => rfl

theorem command_knowledge (command : HostCommand) (w : World RuntimeStore) :
    KnowledgeChange platform w.store (World.after (command.txn platform w)).store := by
  cases operational : command.operational with
  | true => exact .same (command_operates platform command operational w).2.tables_eq
  | false =>
      have moved := (command_writes platform command operational w).2
      cases command with
      | publishSource limits command =>
          exact .discard (publishSource_change limits command)
      | publishSourceVersion limits workspaceId sourceId expected normalized =>
          exact .discard
            (publishSourceVersion_change limits workspaceId sourceId expected normalized)
      | disableSource workspaceId sourceId expected =>
          exact .discard (disableSource_change platform.toEnv workspaceId sourceId expected)
      | retrieveKnowledge retriever workspaceId runId expected query =>
          exact .discard (retrieveKnowledge_change retriever workspaceId runId expected query)
      | domain command =>
          have others : Kind.knowledge ∉ HostCommand.kinds (.domain command) := by
            cases command <;> simp [HostCommand.kinds, commandKind]
          exact .same (writes_frame (fun write => write.tables_eq others) moved)
      | _ => exact .same (writes_frame (fun write => write.tables_eq (by simp [HostCommand.kinds]))
          moved)

/-- One step of the system changes the knowledge records in one of the three ways. -/
theorem step_knowledge (platform : Platform) (s : Sys) (label : Label) :
    KnowledgeChange platform s.store (s.step platform label).store := by
  have idle : KnowledgeChange platform s.store s.store := .same rfl
  cases label with
  | «open» | drop | crash => exact idle
  | advance id input =>
      refine Sys.advance_cases (fun t => KnowledgeChange platform s.store t.store) platform s id
        input (fun call found => ?_) idle
      exact .same (advance_tables s.shared call input)
  | command command => exact command_knowledge command s.shared.world
  | restore request =>
      have moved := moves_restore request s.shared.world
      show KnowledgeChange platform s.store (s.restored request).store
      unfold Sys.restored
      cases h : Runtime.restore request s.shared.world with
      | ok u w =>
          rw [h] at moved
          exact .same moved.2.tables_eq
      | error e w => exact idle

end Steps

end AgentCompanyOS.Runtime
