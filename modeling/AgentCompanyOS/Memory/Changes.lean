import AgentCompanyOS.Memory.Service
import AgentCompanyOS.Runtime.Footprints

/-!
# What a memory command does

A command of the memory service that returned has made the one change of the records that
belongs to it (`Change`), and one that failed has left the store alone.
-/

set_option autoImplicit false

namespace AgentCompanyOS.Memory

open Foundation Foundation.Txn Domain AgentCompanyOS.Runtime

/-! ## Changes -/

/-- The promotion of a stored candidate to an active entry. -/
structure Promotes (s : MemoryRecords) (old : MemoryCandidate) (entry : MemoryEntry) : Prop where
  stored : s.candidates.get? entry.candidate.id = some old
  moved : old.promote = .ok entry.candidate
  absent : s.entries.get? entry.id = none
  first : ∀ e ∈ s.entries.values, e.workspaceId = entry.workspaceId →
    e.candidate.id ≠ entry.candidate.id
  active : entry.status = .active

/-- What a command that returned did to the records of the world it started in. -/
inductive Change (platform : MemoryPlatform) (w : World MemoryStore) : MemoryRecords → Prop where
  | unchanged : Change platform w w.store.toMemoryRecords
  | proposed {c : MemoryCandidate} (absent : w.store.candidates.get? c.id = none)
      (new : ∀ old ∈ w.store.candidates.values,
        old.duplicateKey platform.casefold ≠ c.duplicateKey platform.casefold)
      (version : c.version = Version.initial.next)
      (status : c.status = .underReview ∨ c.status = .rejected) :
      Change platform w { w.store.toMemoryRecords with candidates := w.store.candidates.put c }
  | rejected {old c : MemoryCandidate} {reason : PyStr}
      (stored : w.store.candidates.get? c.id = some old) (moved : old.reject reason = .ok c) :
      Change platform w { w.store.toMemoryRecords with candidates := w.store.candidates.put c }
  | approved {old : MemoryCandidate} {entry : MemoryEntry}
      (promotes : Promotes w.store.toMemoryRecords old entry)
      (named : entry.supersedesId = none) :
      Change platform w { w.store.toMemoryRecords with
        candidates := w.store.candidates.put entry.candidate
        entries := w.store.entries.put entry }
  | superseded {old : MemoryCandidate} {entry previous ended : MemoryEntry} {at' : Instant}
      {reason : PyStr} (promotes : Promotes w.store.toMemoryRecords old entry)
      (found : w.store.entries.get? previous.id = some previous)
      (named : entry.supersedesId = some previous.id)
      (scope : previous.scope = entry.scope)
      (subject : platform.casefold previous.subject = platform.casefold entry.subject)
      (moved : previous.finish .superseded at' reason = .ok ended) :
      Change platform w { w.store.toMemoryRecords with
        candidates := w.store.candidates.put entry.candidate
        entries := (w.store.entries.put entry).put ended }
  | revoked {entry ended : MemoryEntry} {at' : Instant} {reason : PyStr}
      (found : w.store.entries.get? entry.id = some entry)
      (moved : entry.finish .revoked at' reason = .ok ended) :
      Change platform w { w.store.toMemoryRecords with entries := w.store.entries.put ended }
  | retrieved {pack : MemoryContextPack} {run : AgentRun}
      (absent : w.store.packs.get? pack.id = none)
      (time : pack.createdAt = platform.clock w.reads)
      (found : w.store.runtime.runs.get? pack.runId = some run)
      (granted : ∀ hit ∈ pack.result.hits,
        Granted w.store.toMemoryRecords run.definitionVersion pack.createdAt hit) :
      Change platform w { w.store.toMemoryRecords with packs := w.store.packs.put pack }

/-! ## The records that a change replaces -/

/-- The next version of a candidate: the same proposal. -/
structure MemoryCandidate.Succeeds (old next : MemoryCandidate) : Prop where
  id : next.id = old.id
  workspaceId : next.workspaceId = old.workspaceId
  duplicateKey : ∀ casefold, next.duplicateKey casefold = old.duplicateKey casefold
  version : next.version = old.version.next

theorem MemoryCandidate.review_succeeds {old next : MemoryCandidate} (h : old.review = .ok next) :
    old.Succeeds next ∧ old.status = .proposed ∧ next.status = .underReview := by
  obtain ⟨legal, fields⟩ := MemoryCandidate.review_eq_ok h
  refine ⟨⟨?_, ?_, ?_, ?_⟩, legal, ?_⟩
  all_goals first | intro casefold | skip
  all_goals rw [fields]
  rfl

theorem MemoryCandidate.reject_succeeds {old next : MemoryCandidate} {reason : PyStr}
    (h : old.reject reason = .ok next) :
    old.Succeeds next ∧ (old.status = .proposed ∨ old.status = .underReview) ∧
      next.status = .rejected := by
  obtain ⟨legal, fields⟩ := MemoryCandidate.reject_eq_ok h
  refine ⟨⟨?_, ?_, ?_, ?_⟩, legal, ?_⟩
  all_goals first | intro casefold | skip
  all_goals rw [fields]
  rfl

theorem MemoryCandidate.promote_succeeds {old next : MemoryCandidate}
    (h : old.promote = .ok next) :
    old.Succeeds next ∧ old.status = .underReview ∧ next.status = .promoted := by
  obtain ⟨legal, fields⟩ := MemoryCandidate.promote_eq_ok h
  refine ⟨⟨?_, ?_, ?_, ?_⟩, legal, ?_⟩
  all_goals first | intro casefold | skip
  all_goals rw [fields]
  rfl

theorem MemoryCandidate.judged_succeeds {secret : PyStr → Bool} {old next : MemoryCandidate}
    (h : old.judged secret = .ok next) :
    old.Succeeds next ∧ (next.status = .underReview ∨ next.status = .rejected) := by
  unfold MemoryCandidate.judged at h
  split at h
  · obtain ⟨succeeds, -, status⟩ := MemoryCandidate.review_succeeds h
    exact ⟨succeeds, .inl status⟩
  · obtain ⟨succeeds, -, status⟩ := MemoryCandidate.reject_succeeds h
    exact ⟨succeeds, .inr status⟩

/-- An entry that has ended: the same memory, and not active. -/
structure MemoryEntry.Ended (old ended : MemoryEntry) : Prop where
  id : ended.id = old.id
  candidate : ended.candidate = old.candidate
  supersedesId : ended.supersedesId = old.supersedesId
  was : old.status = .active
  now : ended.status ≠ .active

theorem MemoryEntry.finish_ended {old ended : MemoryEntry} {status : MemoryEntryStatus}
    {at' : Instant} {reason : PyStr} (h : old.finish status at' reason = .ok ended) :
    old.Ended ended ∧ ended.status = status := by
  obtain ⟨was, ending, fields⟩ := MemoryEntry.finish_eq_ok h
  refine ⟨⟨?_, ?_, ?_, was, ?_⟩, ?_⟩
  all_goals rw [fields]
  exact ending

/-! ## Each command makes its change -/

section Commands

variable {platform : MemoryPlatform} {w w' : World MemoryStore}

theorem judge_eq_ok {proposed updated : MemoryCandidate}
    (h : judge platform proposed w = .ok updated w') :
    proposed.judged platform.secret = .ok updated ∧
      (∃ previous, w.store.candidates.get? updated.id = some previous ∧
        previous.version = proposed.version) ∧
      w'.store.toMemoryRecords =
        { w.store.toMemoryRecords with candidates := w.store.candidates.put updated } := by
  obtain ⟨c, _, judged, h⟩ := bind_eq_ok.mp h
  obtain ⟨passed, rfl⟩ := checked_eq_ok.mp judged
  obtain ⟨_, _, saved, h⟩ := bind_eq_ok.mp h
  obtain ⟨stored, rfl⟩ := saveCandidate_eq_ok saved
  obtain ⟨_, _, events, h⟩ := bind_eq_ok.mp h
  obtain ⟨_, _, created, last⟩ := bind_eq_ok.mp events
  have first := candidateEvent_eq_ok created
  have second := candidateEvent_eq_ok last
  obtain ⟨rfl, rfl⟩ := pure_eq_ok.mp h
  exact ⟨passed, stored, second.1.trans first.1⟩

theorem reads_validateProvenance (run : AgentRun) (command : ProposeMemoryCandidate) :
    Reads (validateProvenance platform run command) := by
  unfold validateProvenance
  split
  · exact Reads.ofExcept _
  · exact (Reads.raiseIf _ _).bind fun _ => (reads_inRuntime (reads_evidence run)).bind fun _ =>
      Reads.ofExcept _
  · exact (Reads.raiseIf _ _).bind fun _ =>
      (reads_inRuntime (reads_packEvidence run)).bind fun _ => Reads.raiseIf _ _
  · exact Reads.ofExcept _
  · exact Reads.raiseIf _ _

/-- A proposal is filed once it is known to be new. The versions of what is stored start
behind the first one, so that nothing is judged twice. -/
theorem propose_eq_ok {command : ProposeMemoryCandidate} {c : MemoryCandidate}
    (settled : ∀ old ∈ w.store.candidates.values, old.version ≠ .initial)
    (h : propose platform command w = .ok c w') :
    Change platform w w'.store.toMemoryRecords := by
  unfold propose at h
  obtain ⟨run, found, h⟩ := (reads_inRuntime (reads_getRun _ _)).then (atomic_eq_ok.mp h)
  obtain ⟨_, h⟩ := raiseIf_then h
  obtain ⟨_, validated, h⟩ := (reads_validateProvenance _ _).then h
  have h := draw_then h
  have h := readClock_then h
  obtain ⟨proposed, created, rest⟩ := (reads_checked _).then h
  have fields := MemoryCandidate.create_eq_ok (checked_eq_ok.mp created).1
  obtain ⟨stored, v, added, last⟩ := bind_eq_ok.mp rest
  clear h rest
  rcases addCandidate_eq_ok added with ⟨mem, same, rfl⟩ | ⟨rfl, absent, new, rfl⟩
  · split at last
    · obtain ⟨rfl, rfl⟩ := pure_eq_ok.mp last
      exact .unchanged
    · next clash =>
        -- The duplicate would have to be in the first version.
        obtain ⟨judged, ⟨previous, held, version⟩, -⟩ := judge_eq_ok last
        have initial : proposed.version = .initial := congrArg CandidateFields.version fields
        rw [initial] at version
        exact absurd version (settled previous (Registry.mem_values_of_get? held))
  · split at last
    · next clash => exact absurd rfl clash
    · obtain ⟨judged, -, records⟩ := judge_eq_ok last
      obtain ⟨succeeds, status⟩ := MemoryCandidate.judged_succeeds judged
      have initial : stored.version = .initial := congrArg CandidateFields.version fields
      rw [records]
      have twice : (w.store.candidates.put stored).put c = w.store.candidates.put c :=
        Registry.put_put _ succeeds.id.symm
      show Change platform w { w.store.toMemoryRecords with
        candidates := (w.store.candidates.put stored).put c }
      rw [twice]
      refine .proposed ?_ (fun old mem => ?_) ?_ status
      · rw [succeeds.id]
        exact absent
      · rw [succeeds.duplicateKey]
        exact new old mem
      · rw [succeeds.version, initial]

theorem reject_eq_ok {workspaceId : WorkspaceId} {candidateId : MemoryCandidateId}
    {expected : Version} {reviewerId reason : PyStr} {c : MemoryCandidate}
    (h : reject platform workspaceId candidateId expected reviewerId reason w = .ok c w') :
    Change platform w w'.store.toMemoryRecords := by
  obtain ⟨old, found, h⟩ := (reads_getCandidate _ _).then (atomic_eq_ok.mp h)
  obtain ⟨_, h⟩ := raiseIf_then h
  obtain ⟨updated, moved, h⟩ := (reads_checked _).then h
  have moved := (checked_eq_ok.mp moved).1
  obtain ⟨_, v, saved, h⟩ := bind_eq_ok.mp h
  obtain ⟨-, rfl⟩ := saveCandidate_eq_ok saved
  obtain ⟨_, _, event, h⟩ := bind_eq_ok.mp h
  have kept := (candidateEvent_eq_ok event).1
  obtain ⟨rfl, rfl⟩ := pure_eq_ok.mp h
  obtain ⟨stored, -, -⟩ := getCandidate_eq_ok found
  rw [kept]
  refine @Change.rejected _ _ old _ _ ?_ moved
  rw [(MemoryCandidate.reject_succeeds moved).1.id]
  rwa [← Registry.key_of_get? stored] at stored

/-- What an approval asks of the entry that it supersedes. -/
theorem previousEntry_eq_ok {workspaceId : WorkspaceId} {promoted : MemoryCandidate}
    {supersedesId : Option MemoryEntryId} {previous : Option MemoryEntry}
    (h : previousEntry platform workspaceId promoted supersedesId w = .ok previous w') :
    w' = w ∧ previous.map MemoryEntry.key = supersedesId ∧
      ∀ p ∈ previous, w.store.entries.get? p.id = some p ∧ p.scope = promoted.scope ∧
        platform.casefold p.subject = platform.casefold promoted.subject := by
  cases supersedesId with
  | none =>
      obtain ⟨rfl, rfl⟩ := pure_eq_ok.mp h
      exact ⟨rfl, rfl, fun p mem => absurd mem (Option.not_mem_none p)⟩
  | some entryId =>
      obtain ⟨entry, found, h⟩ := (reads_getEntry _ _).then h
      obtain ⟨stored, -, -⟩ := getEntry_eq_ok found
      obtain ⟨passed, h⟩ := raiseIf_then h
      obtain ⟨rfl, rfl⟩ := pure_eq_ok.mp h
      have named : entry.key = entryId := Registry.key_of_get? stored
      subst named
      simp only [not_or, not_not] at passed
      refine ⟨rfl, rfl, fun p mem => ?_⟩
      obtain rfl := Option.mem_some_iff.mp mem
      exact ⟨stored, passed⟩

/-- The superseded entry is ended. -/
theorem endPrevious_eq_ok {entry : MemoryEntry} {at' : Instant} {previous : Option MemoryEntry}
    {u : Unit} (h : endPrevious platform entry at' previous w = .ok u w') :
    match previous with
    | none => w' = w
    | some p => ∃ ended, p.finish .superseded at' (py "superseded_by:" ++ entry.id.value) =
        .ok ended ∧ w'.store.toMemoryRecords =
          { w.store.toMemoryRecords with entries := w.store.entries.put ended } := by
  cases previous with
  | none => exact (pure_eq_ok.mp h).2.symm
  | some p =>
      obtain ⟨ended, moved, h⟩ := (reads_checked _).then h
      obtain ⟨_, _, saved, h⟩ := bind_eq_ok.mp h
      obtain rfl := saveEntry_eq_ok saved
      exact ⟨ended, (checked_eq_ok.mp moved).1, (entryEvent_eq_ok h).1⟩

theorem approve_eq_ok {workspaceId : WorkspaceId} {candidateId : MemoryCandidateId}
    {expected : Version} {reviewerId : PyStr} {supersedesId : Option MemoryEntryId}
    {e : MemoryEntry}
    (h : approve platform workspaceId candidateId expected reviewerId supersedesId w = .ok e w') :
    Change platform w w'.store.toMemoryRecords := by
  unfold approve at h
  obtain ⟨old, found, h⟩ := (reads_getCandidate _ _).then (atomic_eq_ok.mp h)
  obtain ⟨_, h⟩ := raiseIf_then h
  obtain ⟨promoted, moved, h⟩ := (reads_checked _).then h
  have moved := (checked_eq_ok.mp moved).1
  obtain ⟨succeeds, -⟩ := MemoryCandidate.promote_succeeds moved
  obtain ⟨stored, -, -⟩ := getCandidate_eq_ok found
  obtain ⟨_, _, saved, h⟩ := bind_eq_ok.mp h
  obtain ⟨-, rfl⟩ := saveCandidate_eq_ok saved
  have h := readClock_then h
  obtain ⟨previous, _, sought, h⟩ := bind_eq_ok.mp h
  obtain ⟨rfl, named, superseding⟩ := previousEntry_eq_ok sought
  have h := draw_then h
  obtain ⟨entry, made, h⟩ := (reads_checked _).then h
  have fields := MemoryEntry.create_eq_ok (checked_eq_ok.mp made).1
  have carried : entry.candidate = promoted := congrArg EntryFields.candidate fields
  have active : entry.status = .active := congrArg EntryFields.status fields
  have supersedes : entry.supersedesId = supersedesId := congrArg EntryFields.supersedesId fields
  obtain ⟨_, _, added, h⟩ := bind_eq_ok.mp h
  obtain ⟨absent, first, rfl⟩ := addEntry_eq_ok added
  obtain ⟨_, v, ended, h⟩ := bind_eq_ok.mp h
  obtain ⟨_, _, event, h⟩ := bind_eq_ok.mp h
  have kept := (entryEvent_eq_ok event).1
  have ended := endPrevious_eq_ok ended
  obtain ⟨rfl, rfl⟩ := pure_eq_ok.mp h
  rw [kept]
  have promotes : Promotes w.store.toMemoryRecords old entry := by
    refine ⟨?_, carried ▸ moved, absent, first, active⟩
    rw [carried, succeeds.id]
    rwa [← Registry.key_of_get? stored] at stored
  subst carried
  cases previous with
  | none =>
      have same : v.store.toMemoryRecords = { w.store.toMemoryRecords with
          candidates := w.store.candidates.put entry.candidate
          entries := w.store.entries.put entry } :=
        congrArg (fun u : World MemoryStore => u.store.toMemoryRecords) ended
      rw [same]
      exact .approved promotes (supersedes.trans named.symm)
  | some p =>
      obtain ⟨finished, moved, records⟩ := ended
      obtain ⟨found, scope, subject⟩ := superseding p rfl
      rw [records]
      exact .superseded promotes found (supersedes.trans named.symm) scope subject moved

theorem revoke_eq_ok {workspaceId : WorkspaceId} {entryId : MemoryEntryId} {expected : Version}
    {reviewerId reason : PyStr} {e : MemoryEntry}
    (h : revoke platform workspaceId entryId expected reviewerId reason w = .ok e w') :
    Change platform w w'.store.toMemoryRecords := by
  obtain ⟨entry, found, h⟩ := (reads_getEntry _ _).then (atomic_eq_ok.mp h)
  obtain ⟨stored, -, -⟩ := getEntry_eq_ok found
  obtain ⟨_, h⟩ := raiseIf_then h
  have h := readClock_then h
  obtain ⟨updated, moved, h⟩ := (reads_checked _).then h
  have moved := (checked_eq_ok.mp moved).1
  obtain ⟨_, _, saved, h⟩ := bind_eq_ok.mp h
  obtain rfl := saveEntry_eq_ok saved
  obtain ⟨_, _, event, h⟩ := bind_eq_ok.mp h
  have kept := (entryEvent_eq_ok event).1
  obtain ⟨rfl, rfl⟩ := pure_eq_ok.mp h
  rw [kept]
  refine .revoked ?_ moved
  rwa [← Registry.key_of_get? stored] at stored

/-- The entries that a query may see in a world. -/
def eligibleIn (platform : MemoryPlatform) (w : World MemoryStore) (workspaceId : WorkspaceId)
    (query : MemoryQuery) : List MemoryEntry :=
  eligibleEntries query (platform.clock w.reads)
    (w.store.entries.values.filter (·.workspaceId = workspaceId))

/-- What a retrieval that returned has seen: the run and its evidence, the eligible entries
and the result of the retriever, all at the time of the pack. -/
structure Retrieved (platform : MemoryPlatform) (w : World MemoryStore)
    (workspaceId : WorkspaceId) (runId : AgentRunId) (query : MemoryQuery)
    (pack : MemoryContextPack) (run : AgentRun) (facts : List Fact)
    (result : MemoryRetrievalResult) : Prop where
  found : w.store.runtime.runs.get? runId = some run
  evidence : ∃ w', knowledgeEvidence platform run w' = .ok facts w' ∧ w'.store = w.store
  answered : platform.retriever query (eligibleIn platform w workspaceId query) = .ok result
  validated : validateMemoryResult query result (eligibleIn platform w workspaceId query) = .ok ()
  packed : ∃ id, memoryPackOf id workspaceId runId query
    (markConflicts facts result (eligibleIn platform w workspaceId query))
    (platform.clock w.reads) = .ok pack
  absent : w.store.packs.get? pack.id = none
  granted : ∀ hit ∈ pack.result.hits,
    Granted w.store.toMemoryRecords run.definitionVersion pack.createdAt hit

theorem reads_knowledgeEvidence (run : AgentRun) : Reads (knowledgeEvidence platform run) := by
  unfold knowledgeEvidence
  split
  · exact reads_inRuntime (reads_packEvidence run)
  · exact Reads.pure _

theorem getRun_eq_ok {workspaceId : WorkspaceId} {runId : AgentRunId} {run : AgentRun}
    (h : inRuntime (getRun workspaceId runId) w = .ok run w') :
    w.store.runtime.runs.get? runId = some run := by
  obtain ⟨v, read, -⟩ := zoom_eq_ok.mp h
  have read := getStore_then read
  obtain ⟨stored, known, read⟩ := need_then read
  obtain ⟨_, read⟩ := raiseIf_then read
  obtain ⟨rfl, -⟩ := pure_eq_ok.mp read
  exact known

theorem memoryPackOf_fields {id : MemoryContextPackId} {workspaceId : WorkspaceId}
    {runId : AgentRunId} {query : MemoryQuery} {result : MemoryRetrievalResult} {at' : Instant}
    {pack : MemoryContextPack}
    (h : memoryPackOf id workspaceId runId query result at' = .ok pack) :
    pack.id = id ∧ pack.runId = runId ∧ pack.createdAt = at' ∧
      pack.result.hits = fitHits query.maxContextChars result.hits.length result.hits := by
  obtain ⟨provisional, first, second⟩ := except_bind_ok h
  have provisional := MemoryContextPack.create_eq_ok first
  have fields := MemoryContextPack.create_eq_ok second
  rw [provisional] at fields
  rw [fields]
  exact ⟨rfl, rfl, rfl, rfl⟩

/-- The transaction of a retrieval that returned. -/
theorem retrieve_eq_ok {workspaceId : WorkspaceId} {runId : AgentRunId} {expected : Version}
    {query : MemoryQuery} {pack : MemoryContextPack}
    (h : retrieve platform workspaceId runId expected query w = .ok pack w') :
    (∃ run facts result,
      Retrieved platform w workspaceId runId query pack run facts result) ∧
      w'.store.toMemoryRecords =
        { w.store.toMemoryRecords with packs := w.store.packs.put pack } := by
  unfold retrieve at h
  obtain ⟨run, found, h⟩ := (reads_inRuntime (reads_getRun _ _)).then (atomic_eq_ok.mp h)
  obtain ⟨_, _, h⟩ := (reads_inRuntime (Reads.raiseIf _ _)).then h
  have h := readClock_then h
  obtain ⟨_, _, h⟩ := ((Reads.raiseIf _ _).bind fun _ => (reads_listMemoryPacks _ _).bind
    fun _ => Reads.raiseIf _ _).then h
  obtain ⟨entries, listed, h⟩ := (reads_listEntries _).then h
  obtain ⟨rfl, -⟩ := listEntries_eq_ok listed
  obtain ⟨result, answered, h⟩ := ofExcept_then h
  obtain ⟨_, validated, h⟩ := ofExcept_then h
  obtain ⟨facts, evidence, h⟩ := (reads_knowledgeEvidence run).then h
  have h := draw_then h
  obtain ⟨made, built, h⟩ := (reads_checked _).then h
  have built := (checked_eq_ok.mp built).1
  obtain ⟨_, _, saved, h⟩ := bind_eq_ok.mp h
  obtain ⟨absent, ⟨known, stored, granted⟩, rfl⟩ := saveMemoryPack_eq_ok saved
  obtain ⟨_, v, activated, h⟩ := bind_eq_ok.mp h
  obtain ⟨_, _, kept⟩ := zoom_eq_ok.mp activated
  obtain ⟨rfl, rfl⟩ := pure_eq_ok.mp h
  have same : known = run := by
    have stored := stored.symm.trans ((memoryPackOf_fields built).2.1 ▸ getRun_eq_ok found)
    exact Option.some.inj stored
  subst same
  refine ⟨⟨known, facts, result, getRun_eq_ok found, ⟨_, evidence, rfl⟩, answered, validated,
    ⟨_, built⟩, absent, granted⟩, ?_⟩
  rw [← kept]

theorem retrieve_change {workspaceId : WorkspaceId} {runId : AgentRunId} {expected : Version}
    {query : MemoryQuery} {pack : MemoryContextPack}
    (h : retrieve platform workspaceId runId expected query w = .ok pack w') :
    Change platform w w'.store.toMemoryRecords := by
  obtain ⟨⟨run, facts, result, seen⟩, records⟩ := retrieve_eq_ok h
  obtain ⟨id, packed⟩ := seen.packed
  obtain ⟨-, ofRun, time, -⟩ := memoryPackOf_fields packed
  rw [records]
  exact .retrieved seen.absent time (ofRun ▸ seen.found) seen.granted

end Commands

/-! ## Commands -/

/-- The commands of the memory service. -/
inductive MemoryCall where
  | propose (command : ProposeMemoryCandidate)
  | reject (workspaceId : WorkspaceId) (candidateId : MemoryCandidateId) (expected : Version)
      (reviewerId reason : PyStr)
  | approve (workspaceId : WorkspaceId) (candidateId : MemoryCandidateId) (expected : Version)
      (reviewerId : PyStr) (supersedesId : Option MemoryEntryId)
  | revoke (workspaceId : WorkspaceId) (entryId : MemoryEntryId) (expected : Version)
      (reviewerId reason : PyStr)
  | retrieve (workspaceId : WorkspaceId) (runId : AgentRunId) (expected : Version)
      (query : MemoryQuery)

/-- A command as the service runs it. -/
def MemoryCall.issue (platform : MemoryPlatform) : MemoryCall → MemoryTxn Unit
  | propose command => discard (Memory.propose platform command)
  | reject workspaceId candidateId expected reviewerId reason =>
      discard (Memory.reject platform workspaceId candidateId expected reviewerId reason)
  | approve workspaceId candidateId expected reviewerId supersedesId =>
      discard (Memory.approve platform workspaceId candidateId expected reviewerId supersedesId)
  | revoke workspaceId entryId expected reviewerId reason =>
      discard (Memory.revoke platform workspaceId entryId expected reviewerId reason)
  | retrieve workspaceId runId expected query =>
      discard (Memory.retrieve platform workspaceId runId expected query)

section Calls

variable {platform : MemoryPlatform} {w w' : World MemoryStore}

/-- A command that failed has left the store as it was. -/
theorem issue_error {call : MemoryCall} {e : Exc}
    (h : call.issue platform w = .error e w') : w'.store = w.store := by
  have rolls : RollsBack (call.issue platform) := by
    cases call <;> exact (RollsBack.atomic _).discard
  exact rolls.store_eq h

/-- A command that returned has made its change. -/
theorem issue_change (settled : ∀ c ∈ w.store.candidates.values, c.version ≠ .initial)
    {call : MemoryCall} {u : Unit} (h : call.issue platform w = .ok u w') :
    Change platform w w'.store.toMemoryRecords := by
  cases call with
  | propose command =>
      obtain ⟨_, h⟩ := discard_eq_ok.mp h
      exact propose_eq_ok settled h
  | reject workspaceId candidateId expected reviewerId reason =>
      obtain ⟨_, h⟩ := discard_eq_ok.mp h
      exact reject_eq_ok h
  | approve workspaceId candidateId expected reviewerId supersedesId =>
      obtain ⟨_, h⟩ := discard_eq_ok.mp h
      exact approve_eq_ok h
  | revoke workspaceId entryId expected reviewerId reason =>
      obtain ⟨_, h⟩ := discard_eq_ok.mp h
      exact revoke_eq_ok h
  | retrieve workspaceId runId expected query =>
      obtain ⟨_, h⟩ := discard_eq_ok.mp h
      exact retrieve_change h

end Calls

end AgentCompanyOS.Memory
