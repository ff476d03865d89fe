import AgentCompanyOS.Memory.Records

/-!
# The memory store

`InMemoryMemoryStore`: candidates, entries, packs and their events beside the runtime store
that they share a transaction with. Every write checks its argument against the stored
records first, and what it has established is stated next to it.
-/

set_option autoImplicit false

namespace AgentCompanyOS.Memory

open Foundation Foundation.Txn Domain AgentCompanyOS.Runtime

/-! ## Records -/

def MemoryCandidate.key (c : MemoryCandidate) : MemoryCandidateId := c.id

def MemoryEntry.key (e : MemoryEntry) : MemoryEntryId := e.id

def MemoryContextPack.key (p : MemoryContextPack) : MemoryContextPackId := p.id

/-- The records of the memory: what is proposed, what is retained and what was handed out. -/
structure MemoryRecords where
  candidates : Registry MemoryCandidate.key
  entries : Registry MemoryEntry.key
  packs : Registry MemoryContextPack.key

/-- The containers of `InMemoryMemoryStore`. -/
structure MemoryTables extends MemoryRecords where
  events : List Event

/-- The tables with the runtime store below them. -/
structure MemoryStore extends MemoryTables where
  runtime : RuntimeStore

def MemoryRecords.empty : MemoryRecords := ⟨.empty, .empty, .empty⟩

def MemoryTables.empty : MemoryTables := ⟨.empty, []⟩

/-- A program over the memory store. -/
abbrev MemoryTxn (α : Type) := Txn Exc MemoryStore α

/-- A call of the runtime store, inside the shared transaction. -/
def inRuntime {α : Type} (m : RuntimeTxn α) : MemoryTxn α :=
  zoom MemoryStore.runtime (fun r s => { s with runtime := r }) m

/-! ## Reads -/

/-- `_scope`. -/
def memoryScope (name : String) (expected actual : WorkspaceId) : MemoryTxn Unit :=
  raiseIf (expected ≠ actual)
    (.domain (.workspaceMismatch (py name) expected.value actual.value))

/-- `candidate`. -/
def getCandidate (workspaceId : WorkspaceId) (candidateId : MemoryCandidateId) :
    MemoryTxn MemoryCandidate := do
  let store ← getStore
  let candidate ← need (store.candidates.get? candidateId)
    (.domain (.entityNotFound (py "MemoryCandidate") candidateId.value))
  memoryScope "MemoryCandidate" workspaceId candidate.workspaceId
  pure candidate

/-- `candidates`. -/
def listCandidates (workspaceId : WorkspaceId) : MemoryTxn (List MemoryCandidate) := do
  let _ ← inRuntime (inDomain (getWorkspace workspaceId))
  let store ← getStore
  pure (store.candidates.values.filter (·.workspaceId = workspaceId))

/-- `entry`. -/
def getEntry (workspaceId : WorkspaceId) (entryId : MemoryEntryId) : MemoryTxn MemoryEntry := do
  let store ← getStore
  let entry ← need (store.entries.get? entryId)
    (.domain (.entityNotFound (py "MemoryEntry") entryId.value))
  memoryScope "MemoryEntry" workspaceId entry.workspaceId
  pure entry

/-- `entries`. -/
def listEntries (workspaceId : WorkspaceId) : MemoryTxn (List MemoryEntry) := do
  let _ ← inRuntime (inDomain (getWorkspace workspaceId))
  let store ← getStore
  pure (store.entries.values.filter (·.workspaceId = workspaceId))

/-- `packs`. -/
def listMemoryPacks (workspaceId : WorkspaceId) (runId : AgentRunId) :
    MemoryTxn (List MemoryContextPack) := do
  let _ ← inRuntime (getRun workspaceId runId)
  let store ← getStore
  pure (store.packs.values.filter fun p => p.workspaceId = workspaceId ∧ p.runId = runId)

/-! ## Candidates -/

/-- The stored candidate with the duplicate key of a new one. -/
def MemoryRecords.duplicateOf (records : MemoryRecords) (casefold : PyStr → PyStr)
    (candidate : MemoryCandidate) : Option MemoryCandidate :=
  records.candidates.values.find? fun old =>
    old.duplicateKey casefold = candidate.duplicateKey casefold

/-- File a candidate that has no duplicate. -/
def fileCandidate (candidate : MemoryCandidate) : MemoryTxn MemoryCandidate := do
  let store ← getStore
  let others ← listCandidates candidate.workspaceId
  raiseIf (store.candidates.contains candidate.id = true ∨ 200 ≤ others.length)
    (violation "memory_candidate_identity_or_workspace_limit")
  modifyStore fun store => { store with candidates := store.candidates.put candidate }
  pure candidate

/-- `add_candidate`: the duplicate that is stored, or the candidate itself. -/
def addCandidate (casefold : PyStr → PyStr) (candidate : MemoryCandidate) :
    MemoryTxn MemoryCandidate := atomic do
  let _ ← inRuntime (inDomain (getWorkspace candidate.workspaceId))
  let store ← getStore
  match store.duplicateOf casefold candidate with
  | some duplicate => pure duplicate
  | none => fileCandidate candidate

/-- The checks of `save_candidate`. -/
def checkSaveCandidate (casefold : PyStr → PyStr) (candidate : MemoryCandidate)
    (expected : Version) : MemoryTxn Unit := do
  let previous ← getCandidate candidate.workspaceId candidate.id
  raiseIf (previous.version ≠ expected)
    (.domain (.versionConflict (py "MemoryCandidate") candidate.id.value expected.value
      previous.version.value))
  raiseIf (candidate.version ≠ previous.version.next ∨
      candidate.duplicateKey casefold ≠ previous.duplicateKey casefold)
    (violation "memory_candidate_mutation_contract")

/-- `save_candidate`. -/
def saveCandidate (casefold : PyStr → PyStr) (candidate : MemoryCandidate)
    (expected : Version) : MemoryTxn Unit := atomic do
  checkSaveCandidate casefold candidate expected
  modifyStore fun store => { store with candidates := store.candidates.put candidate }

/-! ## Entries -/

/-- The checks of `add_entry`. -/
def checkAddEntry (casefold : PyStr → PyStr) (entry : MemoryEntry) : MemoryTxn Unit := do
  let candidate ← getCandidate entry.workspaceId entry.candidate.id
  let entries ← listEntries entry.workspaceId
  let store ← getStore
  raiseIf (store.entries.contains entry.id = true ∨ candidate ≠ entry.candidate ∨
      (∃ old ∈ entries, old.candidate.id = candidate.id) ∨ 200 ≤ entries.length ∨
      20 ≤ (entries.filter fun old => casefold old.subject = casefold entry.subject).length)
    (violation "memory_entry_binding_or_limit")

/-- `add_entry`. -/
def addEntry (casefold : PyStr → PyStr) (entry : MemoryEntry) : MemoryTxn Unit := atomic do
  checkAddEntry casefold entry
  modifyStore fun store => { store with entries := store.entries.put entry }

/-- The checks of `save_entry`. -/
def checkSaveEntry (entry : MemoryEntry) (expected : Version) : MemoryTxn Unit := do
  let previous ← getEntry entry.workspaceId entry.id
  raiseIf (previous.version ≠ expected)
    (.domain (.versionConflict (py "MemoryEntry") entry.id.value expected.value
      previous.version.value))
  raiseIf (entry.version ≠ previous.version.next ∨ entry.candidate ≠ previous.candidate ∨
      entry.reviewedBy ≠ previous.reviewedBy ∨ entry.reviewedAt ≠ previous.reviewedAt ∨
      entry.supersedesId ≠ previous.supersedesId)
    (violation "memory_entry_mutation_contract")

/-- `save_entry`. -/
def saveEntry (entry : MemoryEntry) (expected : Version) : MemoryTxn Unit := atomic do
  checkSaveEntry entry expected
  modifyStore fun store => { store with entries := store.entries.put entry }

/-! ## Packs -/

/-- What `save_pack` asks of a hit: the entry is stored as it is, active, unexpired and
granted to the run. -/
def checkPackHit (pack : MemoryContextPack) (access : AgentDefinitionVersion) (hit : MemoryHit) :
    MemoryTxn Unit := do
  let entry ← getEntry pack.workspaceId hit.entry.id
  raiseIf (entry ≠ hit.entry ∨ entry.status ≠ .active ∨ entry.isExpired pack.createdAt ∨
      entry.scope ∉ access.memoryScopes ∨ entry.sensitivity ∉ access.memorySensitivities)
    (violation "memory_pack_entry_binding")

/-- The checks of `save_pack`. -/
def checkSaveMemoryPack (pack : MemoryContextPack) : MemoryTxn Unit := do
  let run ← inRuntime (getRun pack.workspaceId pack.runId)
  let access := run.definitionVersion
  let store ← getStore
  let packs ← listMemoryPacks pack.workspaceId pack.runId
  raiseIf (store.packs.contains pack.id = true ∨ 5 ≤ packs.length ∨ run.status ≠ .running ∨
      run.workingState.invocationPending = true ∨
      ¬(run.createdAt ≤ pack.createdAt ∧ pack.createdAt < run.deadline) ∨
      ¬(∀ scope ∈ pack.query.scopes, scope ∈ access.memoryScopes) ∨
      ¬(∀ s ∈ pack.query.sensitivities, s ∈ access.memorySensitivities))
    (violation "memory_pack_identity_scope_or_limit")
  forEach pack.result.hits (checkPackHit pack access)

/-- `save_pack`. -/
def saveMemoryPack (pack : MemoryContextPack) : MemoryTxn Unit := atomic do
  checkSaveMemoryPack pack
  modifyStore fun store => { store with packs := store.packs.put pack }

/-! ## Events -/

/-- File an event of an entity in the version that is stored. -/
def appendMemoryEvent (event : Event) (stored : Version) : MemoryTxn Unit := do
  let store ← getStore
  raiseIf (event.entityVersion ≠ stored ∨ event.id ∈ store.events.map Event.id)
    (violation "memory_event_binding")
  modifyStore fun store => { store with events := store.events ++ [event] }

/-- `_candidate_event` with the check of the store's `append_event`. -/
def candidateEvent (env : Env) (candidate : MemoryCandidate) (kind : EventType)
    (metadata : List (String × PyStr)) : MemoryTxn Unit := do
  let id ← fresh env .event
  let at' ← now env
  let pairs ← checked (cleanMetadata metadata)
  let event ← checked (Event.create id candidate.workspaceId kind .memoryCandidate
    candidate.id.text candidate.version at' pairs)
  let stored ← getCandidate candidate.workspaceId candidate.id
  appendMemoryEvent event stored.version

/-- `_entry_event` with the check of the store's `append_event`. -/
def entryEvent (env : Env) (entry : MemoryEntry) (kind : EventType)
    (metadata : List (String × PyStr)) : MemoryTxn Unit := do
  let id ← fresh env .event
  let at' ← now env
  let pairs ← checked (cleanMetadata metadata)
  let event ← checked (Event.create id entry.workspaceId kind .memoryEntry entry.id.text
    entry.version at' pairs)
  let stored ← getEntry entry.workspaceId entry.id
  appendMemoryEvent event stored.version

/-! ## Reading leaves the store alone -/

theorem reads_inRuntime {α : Type} {m : RuntimeTxn α} (h : Reads m) : Reads (inRuntime m) :=
  Reads.zoom (fun _ => rfl) h

theorem reads_workspace (workspaceId : WorkspaceId) :
    Reads (inRuntime (inDomain (getWorkspace workspaceId))) :=
  reads_inRuntime (reads_getWorkspace workspaceId)

theorem reads_getCandidate (workspaceId : WorkspaceId) (candidateId : MemoryCandidateId) :
    Reads (getCandidate workspaceId candidateId) :=
  Reads.getStore.bind fun _ => (Reads.need _ _).bind fun _ => (Reads.raiseIf _ _).bind fun _ =>
    Reads.pure _

theorem reads_listCandidates (workspaceId : WorkspaceId) : Reads (listCandidates workspaceId) :=
  (reads_workspace _).bind fun _ => Reads.getStore.bind fun _ => Reads.pure _

theorem reads_getEntry (workspaceId : WorkspaceId) (entryId : MemoryEntryId) :
    Reads (getEntry workspaceId entryId) :=
  Reads.getStore.bind fun _ => (Reads.need _ _).bind fun _ => (Reads.raiseIf _ _).bind fun _ =>
    Reads.pure _

theorem reads_listEntries (workspaceId : WorkspaceId) : Reads (listEntries workspaceId) :=
  (reads_workspace _).bind fun _ => Reads.getStore.bind fun _ => Reads.pure _

theorem reads_listMemoryPacks (workspaceId : WorkspaceId) (runId : AgentRunId) :
    Reads (listMemoryPacks workspaceId runId) :=
  (reads_inRuntime (reads_getRun _ _)).bind fun _ => Reads.getStore.bind fun _ => Reads.pure _

theorem reads_checkSaveCandidate (casefold : PyStr → PyStr) (candidate : MemoryCandidate)
    (expected : Version) : Reads (checkSaveCandidate casefold candidate expected) :=
  (reads_getCandidate _ _).bind fun _ => (Reads.raiseIf _ _).bind fun _ => Reads.raiseIf _ _

theorem reads_checkAddEntry (casefold : PyStr → PyStr) (entry : MemoryEntry) :
    Reads (checkAddEntry casefold entry) :=
  (reads_getCandidate _ _).bind fun _ => (reads_listEntries _).bind fun _ =>
    Reads.getStore.bind fun _ => Reads.raiseIf _ _

theorem reads_checkSaveEntry (entry : MemoryEntry) (expected : Version) :
    Reads (checkSaveEntry entry expected) :=
  (reads_getEntry _ _).bind fun _ => (Reads.raiseIf _ _).bind fun _ => Reads.raiseIf _ _

theorem reads_forEach {β : Type} {xs : List β} {f : β → MemoryTxn Unit} (h : ∀ x, Reads (f x)) :
    Reads (forEach xs f) := by
  induction xs with
  | nil => exact Reads.pure ()
  | cons x rest ih => exact (h x).bind fun _ => ih

theorem reads_checkPackHit (pack : MemoryContextPack) (access : AgentDefinitionVersion)
    (hit : MemoryHit) : Reads (checkPackHit pack access hit) :=
  (reads_getEntry _ _).bind fun _ => Reads.raiseIf _ _

theorem reads_checkSaveMemoryPack (pack : MemoryContextPack) : Reads (checkSaveMemoryPack pack) :=
  (reads_inRuntime (reads_getRun _ _)).bind fun _ => Reads.getStore.bind fun _ =>
    (reads_listMemoryPacks _ _).bind fun _ => (Reads.raiseIf _ _).bind fun _ =>
    reads_forEach (reads_checkPackHit pack _)

/-! ## What passed checks establish -/

theorem getCandidate_eq_ok {workspaceId : WorkspaceId} {candidateId : MemoryCandidateId}
    {c : MemoryCandidate} {w w' : World MemoryStore}
    (h : getCandidate workspaceId candidateId w = .ok c w') :
    w.store.candidates.get? candidateId = some c ∧ c.workspaceId = workspaceId ∧ w' = w := by
  have h := getStore_then h
  obtain ⟨stored, found, h⟩ := need_then h
  obtain ⟨here, h⟩ := raiseIf_then h
  obtain ⟨rfl, rfl⟩ := pure_eq_ok.mp h
  exact ⟨found, (not_not.mp here).symm, rfl⟩

theorem getEntry_eq_ok {workspaceId : WorkspaceId} {entryId : MemoryEntryId} {e : MemoryEntry}
    {w w' : World MemoryStore} (h : getEntry workspaceId entryId w = .ok e w') :
    w.store.entries.get? entryId = some e ∧ e.workspaceId = workspaceId ∧ w' = w := by
  have h := getStore_then h
  obtain ⟨stored, found, h⟩ := need_then h
  obtain ⟨here, h⟩ := raiseIf_then h
  obtain ⟨rfl, rfl⟩ := pure_eq_ok.mp h
  exact ⟨found, (not_not.mp here).symm, rfl⟩

theorem listEntries_eq_ok {workspaceId : WorkspaceId} {entries : List MemoryEntry}
    {w w' : World MemoryStore} (h : listEntries workspaceId w = .ok entries w') :
    entries = w.store.entries.values.filter (·.workspaceId = workspaceId) ∧ w' = w := by
  obtain ⟨_, _, h⟩ := (reads_workspace workspaceId).then h
  have h := getStore_then h
  obtain ⟨rfl, rfl⟩ := pure_eq_ok.mp h
  exact ⟨rfl, rfl⟩

/-- A candidate that is filed is new, or its duplicate is stored already. -/
theorem addCandidate_eq_ok {casefold : PyStr → PyStr} {c stored : MemoryCandidate}
    {w w' : World MemoryStore} (h : addCandidate casefold c w = .ok stored w') :
    (stored ∈ w.store.candidates.values ∧
        stored.duplicateKey casefold = c.duplicateKey casefold ∧ w' = w) ∨
      (stored = c ∧ w.store.candidates.get? c.id = none ∧
        (∀ old ∈ w.store.candidates.values,
          old.duplicateKey casefold ≠ c.duplicateKey casefold) ∧
        w' = { w with store := { w.store with candidates := w.store.candidates.put c } }) := by
  obtain ⟨_, _, h⟩ := (reads_workspace _).then (atomic_eq_ok.mp h)
  have h := getStore_then h
  cases duplicate : w.store.duplicateOf casefold c with
  | some old =>
      rw [duplicate] at h
      obtain ⟨rfl, rfl⟩ := pure_eq_ok.mp h
      have same := List.find?_some duplicate
      exact .inl ⟨List.mem_of_find?_eq_some duplicate, of_decide_eq_true same, rfl⟩
  | none =>
      rw [duplicate] at h
      have h := getStore_then h
      obtain ⟨_, _, h⟩ := (reads_listCandidates _).then h
      obtain ⟨absent, h⟩ := raiseIf_then h
      obtain ⟨_, _, changed, h⟩ := bind_eq_ok.mp h
      obtain rfl := (modifyStore_eq_ok.mp changed)
      obtain ⟨rfl, rfl⟩ := pure_eq_ok.mp h
      rw [not_or, Bool.not_eq_true] at absent
      refine .inr ⟨rfl, Registry.contains_eq_false_iff.mp absent.1, ?_, rfl⟩
      intro old mem
      simpa using List.find?_eq_none.mp duplicate old mem

theorem saveCandidate_eq_ok {casefold : PyStr → PyStr} {c : MemoryCandidate} {expected : Version}
    {u : Unit} {w w' : World MemoryStore} (h : saveCandidate casefold c expected w = .ok u w') :
    (∃ previous, w.store.candidates.get? c.id = some previous ∧ previous.version = expected) ∧
      w' = { w with store := { w.store with candidates := w.store.candidates.put c } } := by
  obtain ⟨_, checks, h⟩ := (reads_checkSaveCandidate _ _ _).then (atomic_eq_ok.mp h)
  obtain ⟨previous, _, found, checks⟩ := bind_eq_ok.mp checks
  obtain ⟨found, -, rfl⟩ := getCandidate_eq_ok found
  obtain ⟨version, -⟩ := raiseIf_then checks
  exact ⟨⟨previous, found, not_not.mp version⟩, (modifyStore_eq_ok.mp h).symm⟩

theorem addEntry_eq_ok {casefold : PyStr → PyStr} {e : MemoryEntry} {u : Unit}
    {w w' : World MemoryStore} (h : addEntry casefold e w = .ok u w') :
    w.store.entries.get? e.id = none ∧
      (∀ old ∈ w.store.entries.values, old.workspaceId = e.workspaceId →
        old.candidate.id ≠ e.candidate.id) ∧
      w' = { w with store := { w.store with entries := w.store.entries.put e } } := by
  obtain ⟨_, checks, h⟩ := (reads_checkAddEntry _ _).then (atomic_eq_ok.mp h)
  obtain ⟨candidate, _, found, checks⟩ := bind_eq_ok.mp checks
  obtain ⟨-, -, rfl⟩ := getCandidate_eq_ok found
  obtain ⟨entries, _, listed, checks⟩ := bind_eq_ok.mp checks
  obtain ⟨rfl, rfl⟩ := listEntries_eq_ok listed
  have checks := getStore_then checks
  have refused := (raiseIf_eq_ok.mp checks).1
  simp only [not_or, Bool.not_eq_true, not_exists, not_and, not_not] at refused
  obtain ⟨absent, same, first, -⟩ := refused
  refine ⟨Registry.contains_eq_false_iff.mp absent, ?_, (modifyStore_eq_ok.mp h).symm⟩
  intro old mem here
  rw [← same]
  exact first old (List.mem_filter.mpr ⟨mem, decide_eq_true here⟩)

theorem saveEntry_eq_ok {e : MemoryEntry} {expected : Version} {u : Unit}
    {w w' : World MemoryStore} (h : saveEntry e expected w = .ok u w') :
    w' = { w with store := { w.store with entries := w.store.entries.put e } } := by
  obtain ⟨_, -, h⟩ := (reads_checkSaveEntry _ _).then (atomic_eq_ok.mp h)
  exact (modifyStore_eq_ok.mp h).symm

/-- A hit that may be handed out to a run: its entry is stored as it is, active, not expired
and granted to the run. -/
structure Granted (records : MemoryRecords) (access : AgentDefinitionVersion) (at' : Instant)
    (hit : MemoryHit) : Prop where
  stored : records.entries.get? hit.entry.id = some hit.entry
  active : hit.entry.status = .active
  unexpired : ¬hit.entry.isExpired at'
  scope : hit.entry.scope ∈ access.memoryScopes
  sensitivity : hit.entry.sensitivity ∈ access.memorySensitivities

theorem checkPackHits_eq_ok {pack : MemoryContextPack} {access : AgentDefinitionVersion}
    {hits : List MemoryHit} {u : Unit} {w w' : World MemoryStore}
    (h : forEach hits (checkPackHit pack access) w = .ok u w') :
    ∀ hit ∈ hits, Granted w.store.toMemoryRecords access pack.createdAt hit := by
  induction hits generalizing w with
  | nil => exact fun _ mem => (List.not_mem_nil mem).elim
  | cons hit rest ih =>
      obtain ⟨_, first, others⟩ := (reads_checkPackHit pack access hit).then h
      obtain ⟨entry, _, found, checks⟩ := bind_eq_ok.mp first
      obtain ⟨stored, -, rfl⟩ := getEntry_eq_ok found
      have passed := (raiseIf_eq_ok.mp checks).1
      simp only [not_or, not_not] at passed
      obtain ⟨rfl, active, unexpired, scope, sensitivity⟩ := passed
      intro other mem
      rcases List.mem_cons.mp mem with rfl | later
      · exact ⟨stored, active, unexpired, scope, sensitivity⟩
      · exact ih others other later

theorem saveMemoryPack_eq_ok {pack : MemoryContextPack} {u : Unit} {w w' : World MemoryStore}
    (h : saveMemoryPack pack w = .ok u w') :
    w.store.packs.get? pack.id = none ∧
      (∃ run, w.store.runtime.runs.get? pack.runId = some run ∧
        ∀ hit ∈ pack.result.hits,
          Granted w.store.toMemoryRecords run.definitionVersion pack.createdAt hit) ∧
      w' = { w with store := { w.store with packs := w.store.packs.put pack } } := by
  obtain ⟨_, checks, h⟩ := (reads_checkSaveMemoryPack _).then (atomic_eq_ok.mp h)
  obtain ⟨run, found, checks⟩ := (reads_inRuntime (reads_getRun _ _)).then checks
  have checks := getStore_then checks
  obtain ⟨_, _, checks⟩ := (reads_listMemoryPacks _ _).then checks
  obtain ⟨passed, checks⟩ := raiseIf_then checks
  simp only [not_or, Bool.not_eq_true] at passed
  refine ⟨Registry.contains_eq_false_iff.mp passed.1, ⟨run, ?_, checkPackHits_eq_ok checks⟩,
    (modifyStore_eq_ok.mp h).symm⟩
  obtain ⟨v, read, -⟩ := zoom_eq_ok.mp found
  have read := getStore_then read
  obtain ⟨stored, known, read⟩ := need_then read
  obtain ⟨_, read⟩ := raiseIf_then read
  obtain ⟨rfl, -⟩ := pure_eq_ok.mp read
  exact known

/-- An event is added to the events only. -/
theorem appendMemoryEvent_eq_ok {event : Event} {stored : Version} {u : Unit}
    {w w' : World MemoryStore} (h : appendMemoryEvent event stored w = .ok u w') :
    w'.store.toMemoryRecords = w.store.toMemoryRecords ∧ w'.store.runtime = w.store.runtime := by
  have h := getStore_then h
  obtain ⟨_, h⟩ := raiseIf_then h
  obtain rfl := modifyStore_eq_ok.mp h
  exact ⟨rfl, rfl⟩

theorem candidateEvent_eq_ok {env : Env} {c : MemoryCandidate} {kind : EventType}
    {metadata : List (String × PyStr)} {u : Unit} {w w' : World MemoryStore}
    (h : candidateEvent env c kind metadata w = .ok u w') :
    w'.store.toMemoryRecords = w.store.toMemoryRecords ∧ w'.store.runtime = w.store.runtime := by
  unfold candidateEvent at h
  have h := draw_then h
  have h := readClock_then h
  obtain ⟨_, _, h⟩ := (reads_checked _).then h
  obtain ⟨_, _, h⟩ := (reads_checked _).then h
  obtain ⟨_, _, h⟩ := (reads_getCandidate _ _).then h
  have kept := appendMemoryEvent_eq_ok h
  exact ⟨kept.1, kept.2⟩

theorem entryEvent_eq_ok {env : Env} {e : MemoryEntry} {kind : EventType}
    {metadata : List (String × PyStr)} {u : Unit} {w w' : World MemoryStore}
    (h : entryEvent env e kind metadata w = .ok u w') :
    w'.store.toMemoryRecords = w.store.toMemoryRecords ∧ w'.store.runtime = w.store.runtime := by
  unfold entryEvent at h
  have h := draw_then h
  have h := readClock_then h
  obtain ⟨_, _, h⟩ := (reads_checked _).then h
  obtain ⟨_, _, h⟩ := (reads_checked _).then h
  obtain ⟨_, _, h⟩ := (reads_getEntry _ _).then h
  have kept := appendMemoryEvent_eq_ok h
  exact ⟨kept.1, kept.2⟩

end AgentCompanyOS.Memory
