import AgentCompanyOS.Runtime.Growth
import AgentCompanyOS.Runtime.KnowledgeRuns

/-!
# The lineage of sources and the origin of packs

What `KnowledgeChange` keeps, over every run from a migrated database: the stored versions
of a source are its first to its current one, each with the chunks that its content is cut
into; a disabled source is final; a version, its chunks and a pack are never written again;
and every stored pack was accepted by the checks of `save_pack` in the state before the
step that stored it.
-/

set_option autoImplicit false

namespace AgentCompanyOS.Runtime

open Foundation Foundation.Txn Domain

/-! ## The versions of a source -/

/-- What a source never changes. -/
structure SameIdentity (a b : KnowledgeSource) : Prop where
  id : b.id = a.id
  workspaceId : b.workspaceId = a.workspaceId
  name : b.name = a.name
  sourceType : b.sourceType = a.sourceType
  trust : b.trust = a.trust
  createdAt : b.createdAt = a.createdAt

theorem SameIdentity.refl (source : KnowledgeSource) : SameIdentity source source :=
  ⟨rfl, rfl, rfl, rfl, rfl, rfl⟩

theorem SameIdentity.trans {a b c : KnowledgeSource} (h : SameIdentity a b)
    (h' : SameIdentity b c) : SameIdentity a c :=
  ⟨h'.id.trans h.id, h'.workspaceId.trans h.workspaceId, h'.name.trans h.name,
    h'.sourceType.trans h.sourceType, h'.trust.trans h.trust, h'.createdAt.trans h.createdAt⟩

theorem SameIdentity.successor (source : KnowledgeSource) :
    SameIdentity source source.successor := ⟨rfl, rfl, rfl, rfl, rfl, rfl⟩

theorem SameIdentity.disabled (source : KnowledgeSource) :
    SameIdentity source source.disabled := ⟨rfl, rfl, rfl, rfl, rfl, rfl⟩

/-- A stored source against the source that its current version was published with: it is
this source, or this source disabled. -/
inductive StandsFor (published source : KnowledgeSource) : Prop
  | active (status : source.status = .active) (same : published = source)
  | disabled (same : source = published.disabled)

/-- The versions and the chunks of all sources. -/
structure SourcesVersioned (platform : Platform) (t : KnowledgeTables) : Prop where
  /-- The stored versions of a source are the first to the current one. -/
  numbered : ∀ {id source}, t.sources.get? id = some source → ∀ number : Version,
    (∃ version, t.versions.get? (id, number) = some version) ↔
      number.value ≤ source.contentVersion.value
  /-- A version belongs to a stored source of the same identity. -/
  owned : ∀ {key version}, t.versions.get? key = some version →
    ∃ source, t.sources.get? key.1 = some source ∧ SameIdentity version.source source
  /-- It was published with an active source, at one number. -/
  origin : ∀ {key version}, t.versions.get? key = some version →
    version.source.status = .active ∧ version.source.version = version.source.contentVersion
  current : ∀ {id source}, t.sources.get? id = some source →
    ∃ version, t.versions.get? (id, source.contentVersion) = some version ∧
      StandsFor version.source source
  /-- Its chunks are what its content is cut into. -/
  cut : ∀ {key version}, t.versions.get? key = some version →
    ∃ chunks, chunkContent platform version = .ok chunks ∧
      t.chunks.get? key = some (version.cutInto chunks)
  filed : ∀ {key set}, t.chunks.get? key = some set →
    ∃ version, t.versions.get? key = some version
  bounded : ∀ {id source}, t.sources.get? id = some source → source.contentVersion.value ≤ 20
  room : ∀ workspaceId,
    (t.sources.values.filter (·.workspaceId = workspaceId)).length ≤ 100

namespace SourcesVersioned

variable {platform : Platform} {t : KnowledgeTables}

/-- The version of an active source is its content version. -/
theorem active_version (h : SourcesVersioned platform t) {id : KnowledgeSourceId}
    {source : KnowledgeSource} (found : t.sources.get? id = some source)
    (active : source.status = .active) : source.version = source.contentVersion := by
  obtain ⟨version, stored, stands⟩ := h.current found
  cases stands with
  | active status same =>
      rw [← same]
      exact (h.origin stored).2
  | disabled same =>
      rw [same] at active
      cases active

/-- A version that is published follows the stored one. -/
theorem published_version (h : SourcesVersioned platform t) {source : KnowledgeSource}
    (succeeds : Succeeds t source) :
    source.status = .active ∧ source.version = source.contentVersion := by
  cases succeeds with
  | next previous found active successor =>
      have same := h.active_version found active
      rw [successor]
      exact ⟨active, congrArg Version.next same⟩
  | first absent version content active room => exact ⟨active, version.trans content.symm⟩

/-- The numbers of the versions after a publication. -/
theorem publish_numbered (h : SourcesVersioned platform t) {version : KnowledgeSourceVersion}
    (succeeds : Succeeds t version.source) (number : Version) :
    (∃ v, (t.versions.put version).get? (version.source.id, number) = some v) ↔
      number.value ≤ version.source.contentVersion.value := by
  have filed : (∃ v, (t.versions.put version).get? (version.source.id, number) = some v) ↔
      version.source.contentVersion = number ∨
        ∃ v, t.versions.get? (version.source.id, number) = some v := by
    rw [Registry.get?_put]
    by_cases here : version.source.contentVersion = number
    · simp [KnowledgeSourceVersion.key, here]
    · simp [KnowledgeSourceVersion.key, here]
  rw [filed]
  cases succeeds with
  | next previous found active successor =>
      have value : version.source.contentVersion.value = previous.contentVersion.value + 1 := by
        rw [successor]
        rfl
      rw [h.numbered found number, value]
      constructor
      · rintro (rfl | earlier)
        · exact Nat.le_of_eq value
        · omega
      · intro below
        by_cases here : number.value = previous.contentVersion.value + 1
        · exact .inl (Version.ext_value (value.trans here.symm))
        · exact .inr (by omega)
  | first absent version' content active room =>
      have none : ¬∃ v, t.versions.get? (version.source.id, number) = some v := by
        rintro ⟨v, stored⟩
        obtain ⟨source, found, -⟩ := h.owned stored
        cases absent.symm.trans found
      have positive := number.positive
      rw [content]
      constructor
      · rintro (rfl | stored)
        · exact Nat.le_refl _
        · exact (none stored).elim
      · intro below
        refine .inl (Version.ext_value ?_)
        rw [Version.value_initial] at *
        omega

/-- The sources of a workspace after one of them is replaced, or a new one filed. -/
theorem publish_room (h : SourcesVersioned platform t) {source : KnowledgeSource}
    (succeeds : Succeeds t source) (workspaceId : WorkspaceId) :
    ((t.sources.put source).values.filter (·.workspaceId = workspaceId)).length ≤ 100 := by
  have before := h.room workspaceId
  cases succeeds with
  | next previous found active successor =>
      have same : previous.workspaceId = source.workspaceId := by
        rw [successor]
        rfl
      rw [Registry.filter_values_put_of_present found (by simp [same]), List.length_map]
      exact before
  | first absent version content active room =>
      rw [Registry.values_put_of_absent absent, List.filter_append, List.length_append]
      by_cases own : source.workspaceId = workspaceId
      · subst own
        simp only [List.filter_cons, decide_true, if_true, List.filter_nil, List.length_singleton]
        omega
      · simp only [List.filter_cons, own, decide_false, Bool.false_eq_true, if_false,
          List.filter_nil, List.length_nil]
        omega

theorem publish (h : SourcesVersioned platform t) {version : KnowledgeSourceVersion}
    {chunks : List KnowledgeChunk} (facts : Publishable platform t version chunks) :
    SourcesVersioned platform (t.publish version chunks) := by
  obtain ⟨status, same⟩ := h.published_version facts.succeeds
  -- What was filed under another key is there as before.
  have kept : ∀ {key v}, (t.versions.put version).get? key = some v →
      v = version ∧ key = version.key ∨ t.versions.get? key = some v ∧ version.key ≠ key := by
    intro key v stored
    rw [Registry.get?_put] at stored
    split at stored
    · next here => exact .inl ⟨(Option.some.inj stored).symm, here.symm⟩
    · next other => exact .inr ⟨stored, other⟩
  refine ⟨?_, ?_, ?_, ?_, ?_, ?_, ?_, ?_⟩
  · intro id source found number
    replace found : (t.sources.put version.source).get? id = some source := found
    rw [Registry.get?_put] at found
    split at found
    · next here =>
        subst here
        obtain rfl := Option.some.inj found
        exact h.publish_numbered facts.succeeds number
    · next other =>
        rw [← h.numbered found number]
        have apart : version.key ≠ (id, number) := fun same => other (congrArg Prod.fst same)
        show (∃ v, (t.versions.put version).get? (id, number) = some v) ↔ _
        rw [Registry.get?_put_ne _ apart]
  · intro key v stored
    show ∃ source, (t.sources.put version.source).get? key.1 = some source ∧ _
    rcases kept stored with ⟨rfl, rfl⟩ | ⟨stored, -⟩
    · exact ⟨v.source, Registry.get?_put_self _ _, .refl _⟩
    · obtain ⟨source, found, identity⟩ := h.owned stored
      rw [Registry.get?_put]
      split
      · next here =>
          refine ⟨version.source, rfl, ?_⟩
          cases facts.succeeds with
          | next previous found' active successor =>
              rw [here] at found'
              obtain rfl := Option.some.inj (found.symm.trans found')
              rw [successor]
              exact identity.trans (.successor _)
          | first absent version' content active room =>
              rw [here] at absent
              cases absent.symm.trans found
      · exact ⟨source, found, identity⟩
  · intro key v stored
    rcases kept stored with ⟨rfl, -⟩ | ⟨stored, -⟩
    · exact ⟨status, same⟩
    · exact h.origin stored
  · intro id source found
    show ∃ v, (t.versions.put version).get? _ = some v ∧ _
    replace found : (t.sources.put version.source).get? id = some source := found
    rw [Registry.get?_put] at found
    split at found
    · next here =>
        subst here
        obtain rfl := Option.some.inj found
        exact ⟨version, Registry.get?_put_self _ _, .active status rfl⟩
    · next other =>
        obtain ⟨v, stored, stands⟩ := h.current found
        have apart : version.key ≠ (id, source.contentVersion) :=
          fun same => other (congrArg Prod.fst same)
        exact ⟨v, (Registry.get?_put_ne _ apart).trans stored, stands⟩
  · intro key v stored
    show ∃ cut, _ ∧ (t.chunks.put (version.cutInto chunks)).get? key = _
    rcases kept stored with ⟨rfl, rfl⟩ | ⟨stored, other⟩
    · exact ⟨chunks, facts.cut, Registry.get?_put_self _ _⟩
    · obtain ⟨cut, computed, filed⟩ := h.cut stored
      exact ⟨cut, computed,
        (Registry.get?_put_ne (x := version.cutInto chunks) _ other).trans filed⟩
  · intro key set filed
    show ∃ v, (t.versions.put version).get? key = some v
    replace filed : (t.chunks.put (version.cutInto chunks)).get? key = some set := filed
    rw [Registry.get?_put] at filed
    split at filed
    · next here =>
        rw [← here]
        exact ⟨version, Registry.get?_put_self _ _⟩
    · next other =>
        obtain ⟨v, stored⟩ := h.filed filed
        exact ⟨v, (Registry.get?_put_ne (x := version) _ other).trans stored⟩
  · intro id source found
    replace found : (t.sources.put version.source).get? id = some source := found
    rw [Registry.get?_put] at found
    split at found
    · obtain rfl := Option.some.inj found
      exact facts.bounded
    · exact h.bounded found
  · exact h.publish_room facts.succeeds

/-- A source that is disabled keeps its versions. -/
theorem disable (h : SourcesVersioned platform t) {source : KnowledgeSource}
    (found : t.sources.get? source.id = some source) (active : source.status = .active) :
    SourcesVersioned platform { t with sources := t.sources.put source.disabled } := by
  -- A source after the step is one before it, or the disabled one.
  have before : ∀ {id after}, (t.sources.put source.disabled).get? id = some after →
      ∃ stored, t.sources.get? id = some stored ∧
        (after = stored ∨ after = stored.disabled ∧ stored.status = .active) := by
    intro id after stored
    rw [Registry.get?_put] at stored
    split at stored
    · next here =>
        obtain rfl := Option.some.inj stored
        have here : source.id = id := here
        rw [← here]
        exact ⟨source, found, .inr ⟨rfl, active⟩⟩
    · exact ⟨after, stored, .inl rfl⟩
  refine ⟨?_, ?_, h.origin, ?_, h.cut, h.filed, ?_, ?_⟩
  · intro id after stored number
    obtain ⟨earlier, first, rfl | ⟨rfl, -⟩⟩ := before stored
    · exact h.numbered first number
    · exact h.numbered first number
  · intro key version stored
    obtain ⟨owner, foundOwner, identity⟩ := h.owned stored
    show ∃ after, (t.sources.put source.disabled).get? key.1 = some after ∧ _
    rw [Registry.get?_put]
    split
    · next here =>
        have here : source.id = key.1 := here
        rw [← here, found] at foundOwner
        obtain rfl := Option.some.inj foundOwner
        exact ⟨_, rfl, identity.trans (.disabled _)⟩
    · exact ⟨owner, foundOwner, identity⟩
  · intro id after stored
    obtain ⟨earlier, first, rfl | ⟨rfl, open'⟩⟩ := before stored
    · exact h.current first
    · obtain ⟨version, filed, stands⟩ := h.current first
      refine ⟨version, filed, ?_⟩
      cases stands with
      | active status same =>
          rw [same]
          exact .disabled rfl
      | disabled same =>
          rw [same] at open'
          cases open'
  · intro id after stored
    obtain ⟨earlier, first, rfl | ⟨rfl, -⟩⟩ := before stored
    · exact h.bounded first
    · show earlier.contentVersion.value ≤ 20
      exact h.bounded first
  · intro workspaceId
    show ((t.sources.put source.disabled).values.filter _).length ≤ 100
    rw [Registry.filter_values_put_of_present (x := source.disabled) (y := source) found rfl,
      List.length_map]
    exact h.room workspaceId

theorem change {s s' : RuntimeStore} (change : KnowledgeChange platform s s')
    (h : SourcesVersioned platform s.tables) : SourcesVersioned platform s'.tables := by
  cases change with
  | same tables => exact tables ▸ h
  | published version chunks facts tables =>
      rw [tables]
      exact h.publish facts
  | disabled source found active tables =>
      rw [tables]
      exact h.disable found active
  | packed pack run facts tables =>
      rw [tables]
      exact ⟨h.numbered, h.owned, h.origin, h.current, h.cut, h.filed, h.bounded, h.room⟩

theorem empty : SourcesVersioned platform RuntimeStore.empty.tables := by
  refine ⟨?_, ?_, ?_, ?_, ?_, ?_, ?_, ?_⟩
  all_goals first | (intro _ _ found; cases found) | (intro _; exact Nat.zero_le _)

end SourcesVersioned

/-! ## What is never written again -/

/-- The source after some steps: disabled once, it stays as it is. -/
structure SourceLater (source later : KnowledgeSource) : Prop where
  identity : SameIdentity source later
  grows : source.contentVersion.value ≤ later.contentVersion.value
  final : source.status = .disabled → later = source

/-- What is stored stays; only sources change, and only forward. -/
structure KnowledgeKept (t t' : KnowledgeTables) : Prop where
  sources : t.sources.Evolves SourceLater t'.sources
  versions : t.versions.Evolves Eq t'.versions
  chunks : t.chunks.Evolves Eq t'.chunks
  packs : t.packs.Evolves Eq t'.packs

theorem SourceLater.refl (source : KnowledgeSource) : SourceLater source source :=
  ⟨.refl source, Nat.le_refl _, fun _ => rfl⟩

theorem SourceLater.trans {a b c : KnowledgeSource} (h : SourceLater a b) (h' : SourceLater b c) :
    SourceLater a c := by
  refine ⟨h.identity.trans h'.identity, Nat.le_trans h.grows h'.grows, ?_⟩
  intro disabled
  have same := h.final disabled
  rw [← same] at disabled
  exact (h'.final disabled).trans same

namespace KnowledgeKept

theorem refl (t : KnowledgeTables) : KnowledgeKept t t :=
  ⟨.refl SourceLater.refl _, .refl (R := Eq) (fun _ => rfl) _, .refl (R := Eq) (fun _ => rfl) _,
    .refl (R := Eq) (fun _ => rfl) _⟩

theorem trans {t u v : KnowledgeTables} (h : KnowledgeKept t u) (h' : KnowledgeKept u v) :
    KnowledgeKept t v :=
  ⟨h.sources.trans (fun first second => first.trans second) h'.sources,
    h.versions.trans (fun first second => first.trans second) h'.versions,
    h.chunks.trans (fun first second => first.trans second) h'.chunks,
    h.packs.trans (fun first second => first.trans second) h'.packs⟩

/-- A step keeps what is stored. -/
theorem change {platform : Platform} {s s' : RuntimeStore} (change : KnowledgeChange platform s s')
    (h : SourcesVersioned platform s.tables) : KnowledgeKept s.tables s'.tables := by
  cases change with
  | same tables => exact tables ▸ .refl _
  | published version chunks facts tables =>
      have uncut : s.tables.chunks.get? version.key = none := by
        cases filed : s.tables.chunks.get? version.key with
        | none => rfl
        | some set =>
            obtain ⟨v, stored⟩ := h.filed filed
            cases facts.absent.symm.trans stored
      rw [tables]
      refine ⟨.put SourceLater.refl ?_, .put_new (R := Eq) (fun _ => rfl) facts.absent,
        .put_new (R := Eq) (x := version.cutInto chunks) (fun _ => rfl) uncut,
        .refl (R := Eq) (fun _ => rfl) _⟩
      intro old present
      cases facts.succeeds with
      | next previous found active successor =>
          obtain rfl := Option.some.inj (found.symm.trans present)
          rw [successor]
          refine ⟨.successor previous, Nat.le_succ _, ?_⟩
          intro disabled
          cases active.symm.trans disabled
      | first absent version' content active room => cases absent.symm.trans present
  | disabled source found active tables =>
      rw [tables]
      refine ⟨.put SourceLater.refl ?_, .refl (R := Eq) (fun _ => rfl) _,
        .refl (R := Eq) (fun _ => rfl) _, .refl (R := Eq) (fun _ => rfl) _⟩
      intro old present
      obtain rfl := Option.some.inj (found.symm.trans present)
      refine ⟨.disabled source, Nat.le_refl _, ?_⟩
      intro disabled
      cases active.symm.trans disabled
  | packed pack run facts tables =>
      rw [tables]
      exact ⟨.refl SourceLater.refl _, .refl (R := Eq) (fun _ => rfl) _,
        .refl (R := Eq) (fun _ => rfl) _, .put_new (R := Eq) (fun _ => rfl) facts.fresh⟩

end KnowledgeKept

/-! ## Over whole runs -/

section Runs

variable (platform : Platform)

/-- In every reachable state the sources are versioned. -/
theorem sourcesVersioned_after (labels : List Label) :
    SourcesVersioned platform (Sys.after platform labels).store.tables :=
  Sys.run_keeps (P := fun s => SourcesVersioned platform s.store.tables)
    (fun s label h => h.change (step_knowledge platform s label)) .empty labels

/-- Nothing that a run has stored is written again later in the run. -/
theorem knowledgeKept_run (labels more : List Label) :
    KnowledgeKept (Sys.after platform labels).store.tables
      (Sys.after platform (labels ++ more)).store.tables := by
  induction more using List.reverseRecOn with
  | nil =>
      rw [List.append_nil]
      exact .refl _
  | append_singleton more label ih =>
      rw [← List.append_assoc, Sys.after_concat]
      exact ih.trans (.change (step_knowledge platform _ label) (sourcesVersioned_after platform _))

/-- Entities and runs are kept. -/
theorem grown_run (labels more : List Label) :
    Grown (Sys.after platform labels).store (Sys.after platform (labels ++ more)).store := by
  induction more using List.reverseRecOn with
  | nil =>
      rw [List.append_nil]
      exact .refl _
  | append_singleton more label ih =>
      rw [← List.append_assoc, Sys.after_concat]
      exact ih.trans (step_grown platform _ label)

/-- Every stored pack passed the checks of `save_pack` in the state before the step that
stored it. -/
theorem pack_saved (labels : List Label) : ∀ pack ∈
    (Sys.after platform labels).store.tables.packs.values,
    ∃ before label rest run, labels = before ++ label :: rest ∧
      pack ∈ (Sys.after platform (before ++ [label])).store.tables.packs.values ∧
      Packable platform (Sys.after platform before).store pack run := by
  induction labels using List.reverseRecOn with
  | nil => exact fun _ mem => (List.not_mem_nil mem).elim
  | append_singleton labels label ih =>
      intro pack mem
      have earlier : pack ∈ (Sys.after platform labels).store.tables.packs.values →
          ∃ before step rest run, labels ++ [label] = before ++ step :: rest ∧
            pack ∈ (Sys.after platform (before ++ [step])).store.tables.packs.values ∧
            Packable platform (Sys.after platform before).store pack run := by
        intro mem
        obtain ⟨before, step, rest, run, rfl, filed, facts⟩ := ih pack mem
        exact ⟨before, step, rest ++ [label], run, by simp, filed, facts⟩
      have filed := mem
      rw [Sys.after_concat] at mem
      cases step_knowledge platform (Sys.after platform labels) label with
      | same tables => exact earlier (tables ▸ mem)
      | published version chunks facts tables => exact earlier (by rwa [tables] at mem)
      | disabled source found active tables => exact earlier (by rwa [tables] at mem)
      | packed new run facts tables =>
          rw [tables] at mem
          rcases Registry.mem_values_put.mp mem with rfl | ⟨mem, -⟩
          · exact ⟨labels, label, [], run, rfl, filed, facts⟩
          · exact earlier mem

/-- The stored packs of one run. -/
def KnowledgeTables.packsOf (t : KnowledgeTables) (workspaceId : WorkspaceId)
    (runId : AgentRunId) : List EvidencePack :=
  t.packs.values.filter fun p => p.workspaceId = workspaceId ∧ p.runId = runId

/-- No run has more than five packs. -/
theorem packs_few (labels : List Label) (workspaceId : WorkspaceId) (runId : AgentRunId) :
    ((Sys.after platform labels).store.tables.packsOf workspaceId runId).length ≤ 5 := by
  induction labels using List.reverseRecOn with
  | nil => exact Nat.zero_le _
  | append_singleton labels label ih =>
      rw [Sys.after_concat]
      cases step_knowledge platform (Sys.after platform labels) label with
      | same tables => exact tables ▸ ih
      | published version chunks facts tables => exact tables ▸ ih
      | disabled source found active tables => exact tables ▸ ih
      | packed new run facts tables =>
          rw [tables]
          unfold KnowledgeTables.packsOf at *
          show List.length (List.filter _ (Registry.put _ new).values) ≤ 5
          rw [Registry.values_put_of_absent facts.fresh, List.filter_append, List.length_append]
          by_cases own : new.workspaceId = workspaceId ∧ new.runId = runId
          · have room := facts.room
            rw [own.1, own.2] at room
            simp only [List.filter_cons, own, and_self, decide_true, if_true, List.filter_nil,
              List.length_singleton]
            omega
          · simp only [List.filter_cons, own, decide_false, Bool.false_eq_true, if_false,
              List.filter_nil, List.length_nil, Nat.add_zero]
            exact ih

/-- What a stored pack holds has the sources, versions and chunks that it names, and its
run is stored. -/
structure PackGrounded (s : RuntimeStore) (pack : EvidencePack) (d : AgentDefinitionVersion)
    (candidate : EvidenceCandidate) : Prop where
  source : ∃ source, s.knowledgeSources.get? candidate.chunk.sourceId = some source ∧
    source.workspaceId = pack.workspaceId ∧ source.id ∈ d.knowledgeSources ∧
    source.trust ∈ d.knowledgeTrust
  version : ∃ version,
    s.knowledgeVersions.get? (candidate.chunk.sourceId, candidate.chunk.sourceVersion) =
      some version
  chunk : ∃ set,
    s.knowledgeChunks.get? (candidate.chunk.sourceId, candidate.chunk.sourceVersion) = some set ∧
    candidate.chunk ∈ set.chunks

/-- What was evident once stays grounded. -/
theorem Evident.grounded {s s' : RuntimeStore} {pack : EvidencePack} {d : AgentDefinitionVersion}
    {candidate : EvidenceCandidate} (h : Evident s.tables pack d candidate)
    (kept : KnowledgeKept s.tables s'.tables) : PackGrounded s' pack d candidate := by
  obtain ⟨source, found, own, -, -, granted, trusted, -, -⟩ := h.source
  obtain ⟨set, filed, mem⟩ := h.chunk
  obtain ⟨version, stored, -⟩ := h.version
  obtain ⟨later, foundLater, stays⟩ := kept.sources.later found
  obtain ⟨_, filedLater, rfl⟩ := kept.chunks.later filed
  obtain ⟨_, storedLater, rfl⟩ := kept.versions.later stored
  refine ⟨⟨later, foundLater, stays.identity.workspaceId.trans own, ?_, ?_⟩,
    ⟨version, storedLater⟩, ⟨set, filedLater, mem⟩⟩
  · rw [stays.identity.id]
    exact granted
  · rw [stays.identity.trust]
    exact trusted

/-- A stored pack in a later state: its run, and all that it holds. -/
theorem pack_grounded (labels : List Label) {pack : EvidencePack}
    (mem : pack ∈ (Sys.after platform labels).store.tables.packs.values) :
    ∃ run, (Sys.after platform labels).store.runs.get? pack.runId = some run ∧
      run.workspaceId = pack.workspaceId ∧ ∀ candidate ∈ pack.result.candidates,
        PackGrounded (Sys.after platform labels).store pack run.definitionVersion candidate := by
  obtain ⟨before, label, rest, run, rfl, -, facts⟩ := pack_saved platform labels pack mem
  have kept := knowledgeKept_run platform before (label :: rest)
  obtain ⟨later, found, follows⟩ := (grown_run platform before (label :: rest)).run facts.stored
  have origin := follows.origin
  simp only [AgentRun.origin, Prod.mk.injEq] at origin
  obtain ⟨-, workspace, -, -, -, -, definition, -⟩ := origin
  refine ⟨later, found, workspace.trans facts.workspace, ?_⟩
  intro candidate here
  rw [definition]
  exact (facts.evident candidate here).grounded kept

end Runs

/-! ## Main results -/

/-- The lineage of the sources in a state, and what of it a later state still has. -/
structure SourceHistory (platform : Platform) (t later : KnowledgeTables) : Prop where
  /-- The stored versions of a source are numbered from one to its content version. -/
  versions : ∀ source ∈ t.sources.values, ∀ number : Version,
    (∃ version, t.versions.get? (source.id, number) = some version) ↔
      number.value ≤ source.contentVersion.value
  /-- Every version has the chunks that its content is cut into. -/
  chunks : ∀ version ∈ t.versions.values, ∃ chunks,
    chunkContent platform version = .ok chunks ∧
      t.chunks.get? version.key = some (version.cutInto chunks)
  bounds : ∀ source ∈ t.sources.values, source.contentVersion.value ≤ 20 ∧
    (t.sources.values.filter (·.workspaceId = source.workspaceId)).length ≤ 100
  active : ∀ source ∈ t.sources.values, source.status = .active →
    source.version = source.contentVersion
  /-- Versions and chunks are never written again. -/
  immutable : t.versions.Evolves Eq later.versions ∧ t.chunks.Evolves Eq later.chunks
  /-- A disabled source is final: its record and its versions stay as they are. -/
  disabled : ∀ source ∈ t.sources.values, source.status = .disabled →
    later.sources.get? source.id = some source ∧
      ∀ number, later.versions.get? (source.id, number) = t.versions.get? (source.id, number)

theorem sourceHistory_after (platform : Platform) (labels more : List Label) :
    SourceHistory platform (Sys.after platform labels).store.tables
      (Sys.after platform (labels ++ more)).store.tables := by
  have now := sourcesVersioned_after platform labels
  have next := sourcesVersioned_after platform (labels ++ more)
  have kept := knowledgeKept_run platform labels more
  refine ⟨?_, ?_, ?_, ?_, ⟨kept.versions, kept.chunks⟩, ?_⟩
  · intro source mem
    exact now.numbered (Registry.get?_of_mem_values mem)
  · intro version mem
    exact now.cut (Registry.get?_of_mem_values mem)
  · intro source mem
    exact ⟨now.bounded (Registry.get?_of_mem_values mem), now.room _⟩
  · intro source mem active
    exact now.active_version (Registry.get?_of_mem_values mem) active
  · intro source mem disabled
    have found : _ = some source := Registry.get?_of_mem_values mem
    obtain ⟨later, foundLater, stays⟩ := kept.sources.later found
    obtain rfl := stays.final disabled
    refine ⟨foundLater, ?_⟩
    intro number
    cases stored : (Sys.after platform labels).store.tables.versions.get? (later.id, number) with
    | some version =>
        obtain ⟨_, storedLater, rfl⟩ := kept.versions.later stored
        exact storedLater
    | none =>
        cases storedLater : (Sys.after platform (labels ++ more)).store.tables.versions.get?
            (later.id, number) with
        | none => rfl
        | some version =>
            -- The two states have the same numbers of the source.
            have below := (next.numbered foundLater number).mp ⟨version, storedLater⟩
            obtain ⟨earlier, present⟩ := (now.numbered found number).mpr below
            cases stored.symm.trans present

/-- In every run, whatever is done in between, the sources have this history. -/
theorem source_history (platform : Platform) (labels more : List Label) :
    SourceHistory platform (Sys.after platform labels).store.tables
      (Sys.after platform (labels ++ more)).store.tables :=
  sourceHistory_after platform labels more

/-- Where the packs of a state come from, and what holds of them now. -/
structure PackHistory (platform : Platform) (labels : List Label) : Prop where
  /-- One step has stored the pack, which passed every check of `save_pack` in the state
  before this step. -/
  saved : ∀ pack ∈ (Sys.after platform labels).store.tables.packs.values,
    ∃ before label rest run, labels = before ++ label :: rest ∧
      pack ∈ (Sys.after platform (before ++ [label])).store.tables.packs.values ∧
      Packable platform (Sys.after platform before).store pack run
  few : ∀ run ∈ (Sys.after platform labels).store.runs.values,
    ((Sys.after platform labels).store.tables.packs.values.filter
      (·.runId = run.id)).length ≤ 5
  /-- No pack is changed or removed. -/
  immutable : ∀ more, (Sys.after platform labels).store.tables.packs.Evolves Eq
    (Sys.after platform (labels ++ more)).store.tables.packs

theorem packHistory_after (platform : Platform) (labels : List Label) :
    PackHistory platform labels := by
  refine ⟨pack_saved platform labels, ?_,
    fun more => (knowledgeKept_run platform labels more).packs⟩
  intro run mem
  refine Nat.le_trans (Nat.le_of_eq (congrArg List.length ?_))
    (packs_few platform labels run.workspaceId run.id)
  refine List.filter_congr fun pack stored => ?_
  -- All packs of a run are in its workspace.
  obtain ⟨owner, found, workspace, -⟩ := pack_grounded platform labels stored
  by_cases own : pack.runId = run.id
  · have here : (Sys.after platform labels).store.runs.get? run.id = some run :=
      Registry.get?_of_mem_values mem
    rw [own] at found
    obtain rfl := Option.some.inj (here.symm.trans found)
    simp [own, workspace]
  · simp [own]

/-- Every stored pack has passed the checks of the store, and stays as it is. -/
theorem pack_history (platform : Platform) (labels : List Label) : PackHistory platform labels :=
  packHistory_after platform labels

/-- The sources and the packs of a state, and what the service gives out of them. -/
structure KnowledgeHistory (platform : Platform) (labels more : List Label) : Prop where
  sources : SourceHistory platform (Sys.after platform labels).store.tables
    (Sys.after platform (labels ++ more)).store.tables
  packs : PackHistory platform labels
  /-- A pack is given out while its sources are active and in the scope of the run. -/
  active : ∀ (w w' : World RuntimeStore) (run : AgentRun) (pack : EvidencePack),
    w.store = (Sys.after platform labels).store → activePack run w = .ok (some pack) w' →
      ActivePack w.store run pack

/-- In every run, whatever is done in between, knowledge has this history. -/
theorem knowledge_history (platform : Platform) (labels more : List Label) :
    KnowledgeHistory platform labels more := by
  refine ⟨sourceHistory_after platform labels more, packHistory_after platform labels, ?_⟩
  intro w w' run pack _ given
  rcases activePack_eq_ok given with ⟨-, nothing⟩ | ⟨found, same, facts⟩
  · cases nothing
  · obtain rfl := Option.some.inj same
    exact facts

/-- In every reachable state the active pack of a run is given out if and only if all its
sources are still active. -/
def RevokedByDisabling (s : Sys) : Prop :=
  ∀ run ∈ s.store.runs.values, ∀ pack ∈ s.store.tables.packs.values, pack.runId = run.id →
    run.workingState.activeEvidencePackId = some pack.id →
    (activePack run s.shared.world = .ok (some pack) s.shared.world ↔
      ∀ candidate ∈ pack.result.candidates, ∃ source,
        s.store.knowledgeSources.get? candidate.chunk.sourceId = some source ∧
          source.status = .active)

theorem revoked_by_disabling (platform : Platform) (labels : List Label) :
    RevokedByDisabling (Sys.after platform labels) := by
  intro run stored pack mem own active
  obtain ⟨owner, found, workspace, grounded⟩ := pack_grounded platform labels mem
  have here : (Sys.after platform labels).store.runs.get? run.id = some run :=
    Registry.get?_of_mem_values stored
  rw [own] at found
  obtain rfl := Option.some.inj (here.symm.trans found)
  constructor
  · intro given candidate candidateMem
    rcases activePack_eq_ok given with ⟨-, nothing⟩ | ⟨other, same, facts⟩
    · cases nothing
    · obtain rfl := Option.some.inj same
      obtain ⟨source, foundSource, status, -⟩ := (facts.authorized candidate candidateMem).source
      exact ⟨source, foundSource, status⟩
  · intro open'
    have check : ∀ item ∈ pack.result.candidates,
        checkAuthorized run item (Sys.after platform labels).shared.world =
          .ok () (Sys.after platform labels).shared.world := by
      intro item itemMem
      obtain ⟨source, foundSource, ownSource, granted, trusted⟩ := (grounded item itemMem).source
      obtain ⟨version, storedVersion⟩ := (grounded item itemMem).version
      obtain ⟨set, filed, chunkMem⟩ := (grounded item itemMem).chunk
      obtain ⟨again, foundAgain, status⟩ := open' item itemMem
      obtain rfl := Option.some.inj (foundSource.symm.trans foundAgain)
      have key : KnowledgeSource.id source = item.chunk.sourceId := Registry.key_of_get? foundSource
      have home : source.workspaceId = run.workspaceId := ownSource.trans workspace.symm
      have free : ¬(source.status ≠ .active ∨
          source.id ∉ run.definitionVersion.knowledgeSources ∨
          source.trust ∉ run.definitionVersion.knowledgeTrust) := by
        simp [status, granted, trusted]
      unfold checkAuthorized
      rw [bind_of_ok (getSource_of_found foundSource home), bind_of_ok (raiseIf_of_not free _), key,
        bind_of_ok (getChunks_of_found foundSource home storedVersion filed)]
      exact raiseIf_of_not (not_not.mpr chunkMem) _
    have kept : (Sys.after platform labels).store.evidencePacks.get? pack.id = some pack :=
      Registry.get?_of_mem_values mem
    have got : getPack run.workspaceId run.id pack.id (Sys.after platform labels).shared.world =
        .ok pack (Sys.after platform labels).shared.world := by
      unfold getPack
      rw [bind_of_ok (getRun_of_found here rfl), bind_getStore, bind_of_ok (need_of_some kept _),
        bind_of_ok (raiseIf_of_not (not_not.mpr workspace.symm) _),
        bind_of_ok (raiseIf_of_not (not_not.mpr own) _)]
      rfl
    unfold activePack
    rw [active]
    show (getPack run.workspaceId run.id pack.id >>= _) _ = _
    rw [bind_of_ok got, bind_of_ok (forEach_of_ok check)]
    rfl

end AgentCompanyOS.Runtime
