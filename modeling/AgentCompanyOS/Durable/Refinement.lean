import AgentCompanyOS.Durable.FlushingRecords
import AgentCompanyOS.Runtime.KnowledgeLineage

/-!
# The durable group refines the stores in memory

A transaction of the group either commits, and then the database loads as what the unit
of work makes of the containers in memory, with the effects of its failed scopes dropped,
or it leaves a database that loads as before. By induction over the transactions this
holds from a freshly migrated database on (`durable_refinement`).
-/

set_option autoImplicit false

namespace AgentCompanyOS.Durable

open AgentCompanyOS.Foundation

/-- The knowledge store files a source version under its content version, the group
expects it under its version: in every state of the company the two are the same. -/
theorem source_version_key (platform : Runtime.Platform) (labels : List Runtime.Label)
    {version : Runtime.KnowledgeSourceVersion}
    (mem : version ∈ (Runtime.Sys.after platform labels).store.tables.versions.values) :
    version.key = (version.source.id, version.source.version) := by
  have versioned := Runtime.sourcesVersioned_after platform labels
  rw [(versioned.origin (Registry.get?_of_mem_values mem)).2]
  rfl

namespace Group

variable {R : Type} {g : Group R}

/-! ## A flush -/

/-- Links only add rows to their own table. -/
structure Linking (start db : Database) : Prop where
  keys : db.ForeignKeys
  domain : db.domainRecords = start.domainRecords
  audit : db.domainAudit = start.domainAudit
  canonical : db.canonicalRecords = start.canonicalRecords

theorem Linking.flushLink {start : Database} {c : Containers R}
    {ids : Dict OpaqueId (String × String)} {row : (Collection × String) × R}
    {reference : OpaqueId} {w w' : World Database} (h : Linking start w.store)
    (turn : g.flushLink c ids row reference w = .ok () w') : Linking start w'.store := by
  unfold Group.flushLink at turn
  cases found : ids.get? reference with
  | none =>
      simp only [found] at turn
      cases turn
      exact h
  | some target =>
      simp only [found] at turn
      by_cases other : target.2 ≠ identity row
      · rw [Txn.runIf_of other] at turn
        obtain ⟨workspace, -, turn⟩ := Txn.ofExcept_then turn
        have ran := insert_eq_ok turn
        obtain ⟨domain, audit, canonical⟩ := Database.insertLink_eq_ok ran
        exact ⟨h.keys.insertLink ran, domain.trans h.domain, audit.trans h.audit,
          canonical.trans h.canonical⟩
      · obtain ⟨-, rfl⟩ := Txn.pure_eq_ok.mp (Txn.runIf_of_not other _ w ▸ turn)
        exact h

theorem flush_links {c : Containers R} {rows : List ((Collection × String) × R)}
    {ids : Dict OpaqueId (String × String)} {w w' : World Database} (keys : w.store.ForeignKeys)
    (h : Txn.forEach rows (fun row =>
      Txn.forEach (g.references row.2).dedup (g.flushLink c ids row)) w = .ok () w') :
    Linking w.store w'.store := by
  apply Txn.forEach_visited (P := fun _ db => Linking w.store db) _ ⟨keys, rfl, rfl, rfl⟩ h
  intro _ row _ _ v v' linking inner
  apply Txn.forEach_visited (P := fun _ db => Linking w.store db) _ linking inner
  intro _ reference _ _ u u' now turn
  exact now.flushLink turn

/-- A flush that runs through leaves a database that mirrors the containers. -/
theorem Mirrors.flush {db : Database} {c c' : Containers R} (mirrors : g.Mirrors db c)
    (storable : g.Storable c') (grown : g.Extends c c') {w w' : World Database}
    (start : w.store = db) (h : g.flush db c' w = .ok () w') : g.Mirrors w'.store c' := by
  obtain ⟨_, w₁, entities, h⟩ := Txn.bind_eq_ok.mp h
  obtain ⟨_, w₂, audits, h⟩ := Txn.bind_eq_ok.mp h
  obtain ⟨_, w₃, records, h⟩ := Txn.bind_eq_ok.mp h
  obtain ⟨rows, -, h⟩ := Txn.ofExcept_then h
  obtain ⟨-, links⟩ := Txn.raiseIf_then h
  have domain := flush_entities mirrors storable grown start entities
  have audit := flush_audits mirrors storable grown domain.audit domain.keys audits
  have same : w₂.store.canonicalRecords = db.canonicalRecords :=
    audit.canonical.trans domain.canonical
  have canonical := flush_records mirrors storable grown same audit.keys records
  have linked := flush_links canonical.keys links
  have domainRows : w'.store.domainRecords = w₁.store.domainRecords := by
    rw [linked.domain, canonical.domain, audit.domain]
  have auditRows : w'.store.domainAudit = w₂.store.domainAudit := by
    rw [linked.audit, canonical.audit]
  constructor
  · rw [domainRows]
    exact domain.rows
  · rw [auditRows]
    exact audit.rows
  · rw [linked.canonical]
    exact canonical.rows
  · exact linked.keys
  · intro kind
    rw [domainRows]
    exact (domain.all mirrors grown kind).symm
  · intro kind
    rw [auditRows]
    exact (audit.all domain.audit mirrors storable grown kind).symm
  · exact storable.auditIds
  · intro collection
    rw [linked.canonical]
    exact (canonical.all same mirrors grown collection).symm

/-! ## A transaction -/

theorem faulted_after (phase : Phase) (w : World Database) :
    (World.after (g.faulted phase w)).store = w.store := by
  unfold faulted
  rw [Txn.bind_of_ok (show Txn.readClock (g.fault phase) w = .ok _ _ from rfl)]
  cases g.fault phase w.reads <;> rfl

/-- The outermost scope, when it commits. -/
theorem committing_eq_ok {work : Scoped (Write R) Failure} {w w' : World Database}
    (h : g.committing work w = .ok () w') :
    ∃ c c' v, g.load w.store = .ok c ∧ g.stores.outcome work c = .ok c' ∧
      g.flush w.store c' w = .ok () v ∧ w'.store = v.store := by
  obtain ⟨c, loaded, h⟩ := Txn.ofExcept_then (Txn.getStore_then (Txn.atomic_eq_ok.mp h))
  obtain ⟨c', worked, h⟩ := Txn.ofExcept_then h
  obtain ⟨_, v, flushed, h⟩ := Txn.bind_eq_ok.mp h
  exact ⟨c, c', v, loaded, worked, flushed, faulted_eq_ok h⟩

theorem load_eq_ok {db : Database} {c : Containers R} (h : g.load db = .ok c) :
    g.rebuild db = .ok c := by
  unfold load at h
  cases rebuilt : g.rebuild db with
  | error e =>
      rw [rebuilt] at h
      cases h
  | ok c₁ =>
      rw [rebuilt] at h
      cases accepted : g.validateRelationships c₁ with
      | error e => simp [accepted, bind, Except.bind] at h
      | ok _ =>
          obtain rfl : c₁ = c := by
            simpa [accepted, bind, Except.bind, pure, Except.pure] using h
          rfl

/-- The outermost scope writes what the unit of work makes of the containers. -/
theorem committing_mirrors {work : Scoped (Write R) Failure} {w w' : World Database}
    {c : Containers R} (mirrors : g.Mirrors w.store c) (storable : g.Storable c)
    (inverse : ∀ each ∈ work.steps, g.RoundTrips each)
    (h : g.committing work w = .ok () w') :
    ∃ kept, g.stores.kept work c = .ok kept ∧ g.Storable (g.stores.replay kept c) ∧
      g.Mirrors w'.store (g.stores.replay kept c) := by
  obtain ⟨c₁, c', v, loaded, worked, flushed, after⟩ := committing_eq_ok h
  obtain rfl : c₁ = c :=
    Except.ok.inj ((load_eq_ok loaded).symm.trans mirrors.rebuild)
  obtain ⟨kept, keeps, rfl⟩ := Scopes.outcome_eq_ok_iff.mp worked
  obtain ⟨still, grown⟩ := work_preserves storable inverse keeps
  refine ⟨kept, keeps, still, ?_⟩
  rw [after]
  exact mirrors.flush still grown rfl flushed

/-- A transaction that does not commit leaves the database as it was. -/
theorem transaction_of_not_commits {work : Scoped (Write R) Failure} {w : World Database}
    (h : ¬ g.Commits work w) : (World.after (g.transaction work w)).store = w.store := by
  unfold transaction
  rw [Txn.bind_apply]
  have started := faulted_after (g := g) .beforeTransaction w
  cases begun : g.faulted .beforeTransaction w with
  | error e w₁ =>
      rw [begun] at started
      exact started
  | ok _ w₁ =>
      rw [begun] at started
      dsimp only
      rw [Txn.bind_apply]
      cases body : g.committing work w₁ with
      | ok _ w₂ => exact absurd ⟨w₁, w₂, begun, body⟩ h
      | error e w₂ =>
          show w₂.store = w.store
          rw [Txn.atomic_eq_error body]
          exact started

/-- A transaction that commits has the database of its outermost scope. -/
theorem transaction_of_commits {work : Scoped (Write R) Failure} {w : World Database}
    (h : g.Commits work w) : ∃ w₁ w₂, w₁.store = w.store ∧ g.committing work w₁ = .ok () w₂ ∧
      (World.after (g.transaction work w)).store = w₂.store := by
  obtain ⟨w₁, w₂, begun, body⟩ := h
  refine ⟨w₁, w₂, faulted_eq_ok begun, body, ?_⟩
  unfold transaction
  rw [Txn.bind_of_ok begun, Txn.bind_of_ok body]
  exact faulted_after .afterCommit w₂

/-! ## All transactions -/

theorem Mirrors.fresh : g.Mirrors Database.fresh Containers.empty := by
  refine ⟨nofun, nofun, ?_, .fresh, fun _ => rfl, fun _ => rfl, fun _ => rfl, ?_⟩
  · intro before row after split
    have nothing : ([] : List CanonicalRow) = before ++ row :: after := split
    simp at nothing
  · intro collection
    cases collection with
    | keyed table => rfl
    | sequence list => rfl

/-- A freshly migrated database. -/
def start : World Database := ⟨Database.fresh, 0, 0⟩

theorem run_concat (works : List (Scoped (Write R) Failure)) (work : Scoped (Write R) Failure)
    (w : World Database) :
    g.run (works ++ [work]) w = World.after (g.transaction work (g.run works w)) := by
  simp [run]

/-- Every database that transactions lead to mirrors containers. -/
theorem run_mirrors (works : List (Scoped (Write R) Failure))
    (inverse : ∀ work ∈ works, ∀ each ∈ work.steps, g.RoundTrips each) :
    ∃ c, g.Mirrors (g.run works start).store c ∧ g.Storable c := by
  induction works using List.reverseRecOn with
  | nil => exact ⟨_, Mirrors.fresh, Storable.empty⟩
  | append_singleton works work ih =>
      obtain ⟨c, mirrors, storable⟩ := ih fun each mem =>
        inverse each (List.mem_append_left _ mem)
      rw [run_concat]
      by_cases commits : g.Commits work (g.run works start)
      · obtain ⟨w₁, w₂, same, body, after⟩ := transaction_of_commits commits
        rw [← same] at mirrors
        obtain ⟨kept, -, still, mirrors'⟩ :=
          committing_mirrors mirrors storable (inverse work (by simp)) body
        exact ⟨_, after ▸ mirrors', still⟩
      · rw [transaction_of_not_commits commits]
        exact ⟨c, mirrors, storable⟩

/-- From a freshly migrated database, any transactions one after the other, and one more:
the database loads before it, as containers `c`. If it commits, the database loads as
what the writes that its unit of work keeps make of `c`; a scope that fails keeps none.
If it does not commit, the database loads as `c` again. A transaction that returns has
committed. -/
theorem durable_refinement (g : Group R) (works : List (Scoped (Write R) Failure))
    (work : Scoped (Write R) Failure)
    (inverse : ∀ each ∈ works ++ [work], ∀ w ∈ each.steps, g.RoundTrips w)
    (accepted : ∀ past, past <+: works ++ [work] → ∀ c,
      g.rebuild (g.run past start).store = .ok c → g.validateRelationships c = .ok ()) :
    ∃ c, g.load (g.run works start).store = .ok c ∧
      (g.Commits work (g.run works start) →
        ∃ kept, g.stores.kept work c = .ok kept ∧
          g.load (g.run (works ++ [work]) start).store = .ok (kept.foldl g.written c)) ∧
      (¬ g.Commits work (g.run works start) →
        g.load (g.run (works ++ [work]) start).store = .ok c) ∧
      ∀ w', g.transaction work (g.run works start) = .ok () w' →
        g.Commits work (g.run works start) := by
  obtain ⟨c, mirrors, storable⟩ :=
    run_mirrors works fun each mem => inverse each (List.mem_append_left _ mem)
  have loads : g.load (g.run works start).store = .ok c :=
    mirrors.load (accepted works (List.prefix_append _ _) c mirrors.rebuild)
  refine ⟨c, loads, ?_, ?_, ?_⟩
  · intro commits
    obtain ⟨w₁, w₂, same, body, after⟩ := transaction_of_commits commits
    rw [← same] at mirrors
    obtain ⟨kept, keeps, -, mirrors'⟩ :=
      committing_mirrors mirrors storable (inverse work (by simp)) body
    refine ⟨kept, keeps, ?_⟩
    have final : (g.run (works ++ [work]) start).store = w₂.store := by
      rw [run_concat]
      exact after
    rw [final]
    apply mirrors'.load
    apply accepted (works ++ [work]) List.prefix_rfl
    rw [final]
    exact mirrors'.rebuild
  · intro fails
    rw [run_concat, transaction_of_not_commits fails]
    exact loads
  · intro w' returned
    obtain ⟨_, w₁, begun, returned⟩ := Txn.bind_eq_ok.mp returned
    obtain ⟨_, w₂, body, -⟩ := Txn.bind_eq_ok.mp returned
    exact ⟨w₁, w₂, begun, body⟩

/-! ## A company that is founded and given a policy -/

/-- A workspace with its event, a goal, and two versions of an approval policy. -/
inductive Sample where
  | company | companyCreated | goal | firstPolicy | secondPolicy
deriving DecidableEq

namespace Sample

def stamp : String := "2026-01-01T00:00:00+00:00"

/-- What `encode_record` makes of the domain records and `encode_value` of the policies. -/
def text : Sample → String
  | company => "\x7b\"payload\":\x7b\"created_at\":\"2026-01-01T00:00:00+00:00\"," ++
      "\"id\":\x7b\"value\":\"w1\"\x7d,\"name\":\"Acme\",\"status\":\"active\"," ++
      "\"updated_at\":\"2026-01-01T00:00:00+00:00\",\"version\":\x7b\"value\":1\x7d\x7d," ++
      "\"schema_version\":1,\"type\":\"Workspace\"\x7d"
  | companyCreated => "\x7b\"payload\":\x7b\"entity_version\":\x7b\"value\":1\x7d," ++
      "\"event_type\":\"workspace_created\",\"id\":\x7b\"value\":\"e1\"\x7d," ++
      "\"metadata\":[],\"occurred_at\":\"2026-01-01T00:00:00+00:00\"," ++
      "\"schema_version\":1,\"subject_id\":\"w1\",\"subject_type\":\"workspace\"," ++
      "\"workspace_id\":\x7b\"value\":\"w1\"\x7d\x7d," ++
      "\"schema_version\":1,\"type\":\"Event\"\x7d"
  | goal => "\x7b\"payload\":\x7b\"acceptance_criteria\":[\"shipped\"],\"constraints\":[]," ++
      "\"created_at\":\"2026-01-01T00:00:00+00:00\",\"id\":\x7b\"value\":\"g1\"\x7d," ++
      "\"objective\":\"ship\",\"status\":\"draft\"," ++
      "\"updated_at\":\"2026-01-01T00:00:00+00:00\",\"version\":\x7b\"value\":1\x7d," ++
      "\"workspace_id\":\x7b\"value\":\"w1\"\x7d\x7d," ++
      "\"schema_version\":1,\"type\":\"Goal\"\x7d"
  | firstPolicy => "\x7b\"bounded_execute\":false,\"destinations\":[],\"enabled\":true," ++
      "\"expiry_seconds\":30,\"reviewers\":[],\"tools\":[]," ++
      "\"version\":\x7b\"value\":1\x7d,\"workspace_id\":\x7b\"value\":\"w1\"\x7d\x7d"
  | secondPolicy => "\x7b\"bounded_execute\":false,\"destinations\":[],\"enabled\":true," ++
      "\"expiry_seconds\":30,\"reviewers\":[],\"tools\":[]," ++
      "\"version\":\x7b\"value\":2\x7d,\"workspace_id\":\x7b\"value\":\"w1\"\x7d\x7d"

def id : Sample → String
  | company => "w1"
  | companyCreated => "e1"
  | goal => "g1"
  | firstPolicy | secondPolicy => ""

/-- The text of a record, read at its own type. -/
def ofText (candidates : List Sample) (payload : String) : Except Failure Sample :=
  match candidates.find? (·.text = payload) with
  | some record => .ok record
  | none => .error (.invariantViolation "durable_payload_invalid")

/-- The group over these records. The fault raises at its eighth call. -/
def group : Group Sample where
  id := id
  scope _ := .ok "w1"
  version record := if record = secondPolicy then 2 else 1
  workspaceId _ := "w1"
  status record := if record = goal then "draft" else "active"
  createdAt _ := stamp
  updatedAt _ := stamp
  goalId _ := none
  taskId _ := none
  executionId _ := none
  subjectType _ := "workspace"
  subjectId _ := "w1"
  occurredAt _ := stamp
  delegationId _ := ""
  grant _ := ("", 0)
  definitionId _ := ""
  intentId _ := ""
  source _ := ("", 0)
  chunkSources _ := []
  planId _ := ""
  planVersion _ := 0
  opaqueId _ := none
  intentRef _ := none
  references _ := [⟨"WorkspaceId", "w1"⟩]
  encodeRecord record := .ok record.text
  decodeRecord type := ofText (match type with
    | .domain .workspace => [company]
    | .domain .goal => [goal]
    | .audit .event => [companyCreated]
    | _ => [])
  encodeValue _ record := .ok record.text
  decodeValue _ := ofText [firstPolicy, secondPolicy]
  encodeKey _ key :=
    if key = .id "w1" then .ok "\x7b\"value\":\"w1\"\x7d"
    else .error (.invariantViolation "durable_payload_invalid")
  decodeKey _ keyJson :=
    if keyJson = "\x7b\"value\":\"w1\"\x7d" then .ok (.id "w1")
    else .error (.invariantViolation "durable_payload_invalid")
  jsonValid _ := true
  validateRelationships _ := .ok ()
  fault _ call := if call = 7 then some (.other "disk_failure") else none

/-- A workspace with its event, a goal in a scope that fails and is caught, a policy. -/
def founding : Scoped (Write Sample) Failure :=
  .scope (.step (.enter .workspace company) (.step (.note .event companyCreated) .finished)) false
    (.scope (.step (.enter .goal goal) (.raised (.other "refused"))) true
      (.step (.file .policies (.id "w1") firstPolicy) .finished))

/-- The next version of the policy. -/
def update : Scoped (Write Sample) Failure :=
  .scope (.step (.file .policies (.id "w1") secondPolicy) .finished) false .finished

theorem roundTrips : ∀ each ∈ [founding, update, update], ∀ w ∈ each.steps,
    group.RoundTrips w := by
  intro each mem w step
  have written : w ∈ [Write.enter .workspace company, .note .event companyCreated,
      .enter .goal goal, .file .policies (.id "w1") firstPolicy,
      .file .policies (.id "w1") secondPolicy] := by
    have among : w ∈ founding.steps ++ update.steps := by
      rcases List.mem_cons.mp mem with rfl | mem
      · exact List.mem_append_left _ step
      · have last : each = update := by simpa using mem
        exact List.mem_append_right _ (last ▸ step)
    simpa [founding, update, Scoped.steps] using among
  have key : group.KeyRoundTrips (.keyed .policies) (.id "w1") := by
    intro keyJson encoded
    cases encoded
    rfl
  simp only [List.mem_cons, List.not_mem_nil, or_false] at written
  rcases written with rfl | rfl | rfl | rfl | rfl
  · intro payload encoded
    cases encoded
    decide +kernel
  · intro payload encoded
    cases encoded
    decide +kernel
  · intro payload encoded
    cases encoded
    decide +kernel
  · refine ⟨key, ?_⟩
    intro payload encoded
    cases encoded
    decide +kernel
  · refine ⟨key, ?_⟩
    intro payload encoded
    cases encoded
    decide +kernel

/-- The company is founded; a disk failure keeps the second policy out; the same unit of
work brings it in afterwards. The goal of the scope that failed is in no database. -/
theorem update_retried : ∃ c, group.load (group.run [founding, update] start).store = .ok c ∧
    (c.domain .workspace).values = [("w1", company)] ∧ (c.domain .goal).values = [] ∧
    (c.dicts .policies).values = [(.id "w1", firstPolicy)] ∧
    group.load (group.run [founding, update, update] start).store =
      .ok (group.written c (.file .policies (.id "w1") secondPolicy)) := by
  obtain ⟨c, loads, commits, -, returned⟩ :=
    durable_refinement group [founding, update] update roundTrips fun _ _ _ _ => rfl
  have view : (group.load (group.run [founding, update] start).store).map
      (fun c => ((c.domain .workspace).values, (c.domain .goal).values,
        (c.dicts .policies).values)) =
      .ok ([("w1", company)], [], [(.id "w1", firstPolicy)]) := by decide +kernel
  rw [loads] at view
  obtain ⟨workspaces, goals, policies⟩ : (c.domain .workspace).values = [("w1", company)] ∧
      (c.domain .goal).values = [] ∧
      (c.dicts .policies).values = [(.id "w1", firstPolicy)] := by
    simpa [Except.map] using view
  have ran : (World.answer (group.transaction update (group.run [founding, update] start))).isOk =
      true := by decide +kernel
  obtain ⟨kept, keeps, loads'⟩ := commits (returned _ (Txn.ok_of_isOk ran))
  have one : kept = [.file .policies (.id "w1") secondPolicy] := by
    cases passed : group.stores.check (.file .policies (.id "w1") secondPolicy) c with
    | error e => simp [update, Scopes.kept, passed] at keeps
    | ok _ => simpa [update, Scopes.kept, passed, Except.map, eq_comm] using keeps
  subst one
  exact ⟨c, loads, workspaces, goals, policies, loads'⟩

end Sample

end Group

end AgentCompanyOS.Durable
