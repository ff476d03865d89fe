import AgentCompanyOS.Durable.Containers

/-!
# The tables of the durable database

The tables that `001_domain.sql` and `002_runtime.sql` create, with their rows in the
order of insertion (`ORDER BY rowid`; no row is ever deleted), and the statements that
the group runs on them. A statement that breaks a constraint raises. The primary keys
are part of the tables; `json_valid` is a parameter.

The foreign keys hold in every database that the statements lead to
(`Database.ForeignKeys.insertDomain` and the others).
-/

set_option autoImplicit false

namespace AgentCompanyOS.Durable

open AgentCompanyOS.Foundation

/-! ## Rows -/

structure DomainRow where
  kind : String
  id : String
  workspaceId : String
  version : Nat
  status : String
  createdAt : String
  updatedAt : String
  payload : String
  goalId : Option String
  taskId : Option String
  executionId : Option String
deriving DecidableEq

structure AuditRow where
  kind : String
  id : String
  workspaceId : String
  subjectKind : String
  subjectId : String
  occurredAt : String
  payload : String
deriving DecidableEq

structure CanonicalRow where
  collection : String
  recordKey : String
  schemaVersion : Nat
  workspaceId : String
  revision : Nat
  entityVersion : Nat
  retention : String
  payload : String
deriving DecidableEq

structure LinkRow where
  workspaceId : String
  collection : String
  recordKey : String
  targetCollection : String
  targetKey : String
deriving DecidableEq

def DomainRow.key (row : DomainRow) : String × String := (row.kind, row.id)

def AuditRow.key (row : AuditRow) : String × String := (row.kind, row.id)

def CanonicalRow.key (row : CanonicalRow) : String × String := (row.collection, row.recordKey)

def LinkRow.key (row : LinkRow) : (String × String) × (String × String) :=
  ((row.collection, row.recordKey), (row.targetCollection, row.targetKey))

structure Database where
  domainRecords : Registry DomainRow.key
  domainAudit : Registry AuditRow.key
  canonicalRecords : Registry CanonicalRow.key
  canonicalLinks : Registry LinkRow.key

namespace Database

/-- A freshly migrated database. -/
def fresh : Database := ⟨Registry.empty, Registry.empty, Registry.empty, Registry.empty⟩

/-- The `domain_records` row of a workspace, a kind and an identifier. -/
def HasEntity (db : Database) (workspaceId : String) (key : String × String) : Prop :=
  (db.domainRecords.get? key).map DomainRow.workspaceId = some workspaceId

instance (db : Database) (workspaceId : String) (key : String × String) :
    Decidable (db.HasEntity workspaceId key) := inferInstanceAs (Decidable (_ = _))

def HasWorkspace (db : Database) (workspaceId : String) : Prop :=
  (db.domainRecords.get? ("workspace", workspaceId)).isSome = true

instance (db : Database) (workspaceId : String) : Decidable (db.HasWorkspace workspaceId) :=
  inferInstanceAs (Decidable (_ = _))

/-- The `canonical_records` row of a workspace, a collection and a key. -/
def HasRecord (db : Database) (workspaceId : String) (key : String × String) : Prop :=
  (db.canonicalRecords.get? key).map CanonicalRow.workspaceId = some workspaceId

instance (db : Database) (workspaceId : String) (key : String × String) :
    Decidable (db.HasRecord workspaceId key) := inferInstanceAs (Decidable (_ = _))

end Database

/-! ## Constraints -/

/-- The `CHECK` clauses of `domain_records`. -/
def DomainRow.Checked (jsonValid : String → Bool) (row : DomainRow) : Prop :=
  row.kind ∈ DomainKind.all.map DomainKind.text ∧ 0 < row.version ∧
    jsonValid row.payload = true ∧ (row.kind = "workspace" → row.id = row.workspaceId) ∧
    ((row.kind = "task" ∨ row.kind = "execution") ↔ row.goalId.isSome = true) ∧
    (row.kind = "task_attempt" ↔ row.taskId.isSome = true) ∧
    (row.kind = "task_attempt" ↔ row.executionId.isSome = true)

instance (jsonValid : String → Bool) (row : DomainRow) : Decidable (row.Checked jsonValid) :=
  inferInstanceAs (Decidable (_ ∧ _))

/-- The `FOREIGN KEY` clauses of `domain_records`; a parent that is null is not checked. -/
def DomainRow.Linked (db : Database) (row : DomainRow) : Prop :=
  db.HasWorkspace row.workspaceId ∧
    (∀ goalId ∈ row.goalId, db.HasEntity row.workspaceId ("goal", goalId)) ∧
    (∀ taskId ∈ row.taskId, db.HasEntity row.workspaceId ("task", taskId)) ∧
    (∀ executionId ∈ row.executionId, db.HasEntity row.workspaceId ("execution", executionId))

instance (db : Database) (row : DomainRow) : Decidable (row.Linked db) :=
  inferInstanceAs (Decidable (_ ∧ _))

def AuditRow.Checked (jsonValid : String → Bool) (row : AuditRow) : Prop :=
  row.kind ∈ ["event", "transition"] ∧ jsonValid row.payload = true

instance (jsonValid : String → Bool) (row : AuditRow) : Decidable (row.Checked jsonValid) :=
  inferInstanceAs (Decidable (_ ∧ _))

def AuditRow.Linked (db : Database) (row : AuditRow) : Prop :=
  db.HasEntity row.workspaceId (row.subjectKind, row.subjectId)

instance (db : Database) (row : AuditRow) : Decidable (row.Linked db) :=
  inferInstanceAs (Decidable (db.HasEntity _ _))

def CanonicalRow.Checked (jsonValid : String → Bool) (row : CanonicalRow) : Prop :=
  row.schemaVersion = 1 ∧ 0 < row.revision ∧ 0 < row.entityVersion ∧
    row.retention ∈ ["operational", "audit", "sensitive"] ∧ jsonValid row.payload = true

instance (jsonValid : String → Bool) (row : CanonicalRow) : Decidable (row.Checked jsonValid) :=
  inferInstanceAs (Decidable (_ ∧ _))

def CanonicalRow.Linked (db : Database) (row : CanonicalRow) : Prop :=
  db.HasWorkspace row.workspaceId

instance (db : Database) (row : CanonicalRow) : Decidable (row.Linked db) :=
  inferInstanceAs (Decidable (db.HasWorkspace _))

def LinkRow.Linked (db : Database) (row : LinkRow) : Prop :=
  db.HasRecord row.workspaceId (row.collection, row.recordKey) ∧
    db.HasRecord row.workspaceId (row.targetCollection, row.targetKey)

instance (db : Database) (row : LinkRow) : Decidable (row.Linked db) :=
  inferInstanceAs (Decidable (_ ∧ _))

namespace Database

/-- What `PRAGMA foreign_key_check` looks for is not there. -/
structure ForeignKeys (db : Database) : Prop where
  domainRecords : ∀ row ∈ db.domainRecords.values, row.Linked db
  domainAudit : ∀ row ∈ db.domainAudit.values, row.Linked db
  canonicalRecords : ∀ row ∈ db.canonicalRecords.values, row.Linked db
  canonicalLinks : ∀ row ∈ db.canonicalLinks.values, row.Linked db

instance (db : Database) : Decidable db.ForeignKeys :=
  decidable_of_iff
    ((∀ row ∈ db.domainRecords.values, row.Linked db) ∧
      (∀ row ∈ db.domainAudit.values, row.Linked db) ∧
      (∀ row ∈ db.canonicalRecords.values, row.Linked db) ∧
      ∀ row ∈ db.canonicalLinks.values, row.Linked db)
    ⟨fun h => ⟨h.1, h.2.1, h.2.2.1, h.2.2.2⟩, fun h => ⟨h.1, h.2, h.3, h.4⟩⟩

/-! ## Statements -/

variable (jsonValid : String → Bool)

/-- `INSERT INTO domain_records` -/
def insertDomain (row : DomainRow) (db : Database) : Except Failure Database :=
  let inserted := { db with domainRecords := db.domainRecords.put row }
  if db.domainRecords.get? row.key = none ∧ row.Checked jsonValid ∧ row.Linked inserted then
    .ok inserted
  else .error .integrityError

/-- `UPDATE domain_records SET version, status, updated_at, payload WHERE kind AND id AND
version`, with the number of rows that it changed. -/
def updateDomain (key : String × String) (expected version : Nat)
    (status updatedAt payload : String) (db : Database) : Except Failure (Nat × Database) :=
  match db.domainRecords.get? key with
  | none => .ok (0, db)
  | some row =>
      let updated := { row with version, status, updatedAt, payload }
      if row.version ≠ expected then .ok (0, db)
      else if updated.Checked jsonValid then
        .ok (1, { db with domainRecords := db.domainRecords.put updated })
      else .error .integrityError

/-- `INSERT INTO domain_audit` -/
def insertAudit (row : AuditRow) (db : Database) : Except Failure Database :=
  if db.domainAudit.get? row.key = none ∧ row.Checked jsonValid ∧ row.Linked db then
    .ok { db with domainAudit := db.domainAudit.put row }
  else .error .integrityError

/-- `INSERT INTO canonical_records` -/
def insertCanonical (row : CanonicalRow) (db : Database) : Except Failure Database :=
  if db.canonicalRecords.get? row.key = none ∧ row.Checked jsonValid ∧ row.Linked db then
    .ok { db with canonicalRecords := db.canonicalRecords.put row }
  else .error .integrityError

/-- `UPDATE canonical_records SET payload, entity_version, revision = revision + 1 WHERE
collection AND record_key AND revision`, with the number of rows that it changed. -/
def updateCanonical (key : String × String) (expected : Nat) (payload : String)
    (entityVersion : Nat) (db : Database) : Except Failure (Nat × Database) :=
  match db.canonicalRecords.get? key with
  | none => .ok (0, db)
  | some row =>
      let updated := { row with payload, entityVersion, revision := row.revision + 1 }
      if row.revision ≠ expected then .ok (0, db)
      else if updated.Checked jsonValid then
        .ok (1, { db with canonicalRecords := db.canonicalRecords.put updated })
      else .error .integrityError

/-- `INSERT OR IGNORE INTO canonical_links` -/
def insertLink (row : LinkRow) (db : Database) : Except Failure Database :=
  if db.canonicalLinks.get? row.key ≠ none then .ok db
  else if row.Linked db then .ok { db with canonicalLinks := db.canonicalLinks.put row }
  else .error .integrityError

/-! ## The foreign keys hold after every statement -/

/-- Every row that a foreign key can name is still there, in the same workspace. -/
structure Grows (db db' : Database) : Prop where
  entity : ∀ {key row}, db.domainRecords.get? key = some row →
    ∃ row', db'.domainRecords.get? key = some row' ∧ row'.workspaceId = row.workspaceId
  record : ∀ {key row}, db.canonicalRecords.get? key = some row →
    ∃ row', db'.canonicalRecords.get? key = some row' ∧ row'.workspaceId = row.workspaceId

variable {jsonValid} {db db' : Database}

theorem Grows.hasEntity (h : Grows db db') {workspaceId : String} {key : String × String}
    (has : db.HasEntity workspaceId key) : db'.HasEntity workspaceId key := by
  obtain ⟨row, found, here⟩ := Option.map_eq_some_iff.mp has
  obtain ⟨row', found', same⟩ := h.entity found
  exact Option.map_eq_some_iff.mpr ⟨row', found', same.trans here⟩

theorem Grows.hasWorkspace (h : Grows db db') {workspaceId : String}
    (has : db.HasWorkspace workspaceId) : db'.HasWorkspace workspaceId := by
  obtain ⟨row, found⟩ := Option.isSome_iff_exists.mp has
  obtain ⟨row', found', -⟩ := h.entity found
  exact Option.isSome_iff_exists.mpr ⟨row', found'⟩

theorem Grows.hasRecord (h : Grows db db') {workspaceId : String} {key : String × String}
    (has : db.HasRecord workspaceId key) : db'.HasRecord workspaceId key := by
  obtain ⟨row, found, here⟩ := Option.map_eq_some_iff.mp has
  obtain ⟨row', found', same⟩ := h.record found
  exact Option.map_eq_some_iff.mpr ⟨row', found', same.trans here⟩

theorem Grows.domainRow (h : Grows db db') {row : DomainRow} (linked : row.Linked db) :
    row.Linked db' := by
  obtain ⟨workspace, goal, task, execution⟩ := linked
  exact ⟨h.hasWorkspace workspace, fun id mem => h.hasEntity (goal id mem),
    fun id mem => h.hasEntity (task id mem), fun id mem => h.hasEntity (execution id mem)⟩

theorem Grows.auditRow (h : Grows db db') {row : AuditRow} (linked : row.Linked db) :
    row.Linked db' :=
  h.hasEntity linked

theorem Grows.canonicalRow (h : Grows db db') {row : CanonicalRow} (linked : row.Linked db) :
    row.Linked db' :=
  h.hasWorkspace linked

theorem Grows.linkRow (h : Grows db db') {row : LinkRow} (linked : row.Linked db) :
    row.Linked db' :=
  ⟨h.hasRecord linked.1, h.hasRecord linked.2⟩

theorem Grows.putDomain {row : DomainRow}
    (same : ∀ old, db.domainRecords.get? row.key = some old → row.workspaceId = old.workspaceId) :
    Grows db { db with domainRecords := db.domainRecords.put row } := by
  constructor
  · intro key old found
    by_cases here : row.key = key
    · subst here
      exact ⟨row, Registry.get?_put_self _ row, same old found⟩
    · exact ⟨old, (Registry.get?_put_ne _ here).trans found, rfl⟩
  · intro key old found
    exact ⟨old, found, rfl⟩

theorem Grows.putCanonical {row : CanonicalRow}
    (same : ∀ old, db.canonicalRecords.get? row.key = some old →
      row.workspaceId = old.workspaceId) :
    Grows db { db with canonicalRecords := db.canonicalRecords.put row } := by
  constructor
  · intro key old found
    exact ⟨old, found, rfl⟩
  · intro key old found
    by_cases here : row.key = key
    · subst here
      exact ⟨row, Registry.get?_put_self _ row, same old found⟩
    · exact ⟨old, (Registry.get?_put_ne _ here).trans found, rfl⟩

theorem Grows.of_same (domain : db'.domainRecords = db.domainRecords)
    (canonical : db'.canonicalRecords = db.canonicalRecords) : Grows db db' :=
  ⟨fun found => ⟨_, domain ▸ found, rfl⟩, fun found => ⟨_, canonical ▸ found, rfl⟩⟩

namespace ForeignKeys

theorem fresh : ForeignKeys Database.fresh := by
  constructor <;> exact nofun

theorem putDomain (h : ForeignKeys db) {row : DomainRow}
    (same : ∀ old, db.domainRecords.get? row.key = some old → row.workspaceId = old.workspaceId)
    (linked : row.Linked { db with domainRecords := db.domainRecords.put row }) :
    ForeignKeys { db with domainRecords := db.domainRecords.put row } := by
  have grows := Grows.putDomain same
  constructor
  · intro other mem
    rcases Registry.mem_values_put.mp mem with rfl | ⟨mem, -⟩
    · exact linked
    · exact grows.domainRow (h.domainRecords other mem)
  · exact fun other mem => grows.auditRow (h.domainAudit other mem)
  · exact fun other mem => grows.canonicalRow (h.canonicalRecords other mem)
  · exact fun other mem => grows.linkRow (h.canonicalLinks other mem)

theorem putAudit (h : ForeignKeys db) {row : AuditRow} (linked : row.Linked db) :
    ForeignKeys { db with domainAudit := db.domainAudit.put row } := by
  have grows : Grows db { db with domainAudit := db.domainAudit.put row } := .of_same rfl rfl
  constructor
  · exact fun other mem => grows.domainRow (h.domainRecords other mem)
  · intro other mem
    rcases Registry.mem_values_put.mp mem with rfl | ⟨mem, -⟩
    · exact grows.auditRow linked
    · exact grows.auditRow (h.domainAudit other mem)
  · exact fun other mem => grows.canonicalRow (h.canonicalRecords other mem)
  · exact fun other mem => grows.linkRow (h.canonicalLinks other mem)

theorem putCanonical (h : ForeignKeys db) {row : CanonicalRow}
    (same : ∀ old, db.canonicalRecords.get? row.key = some old →
      row.workspaceId = old.workspaceId)
    (linked : row.Linked db) :
    ForeignKeys { db with canonicalRecords := db.canonicalRecords.put row } := by
  have grows := Grows.putCanonical same
  constructor
  · exact fun other mem => grows.domainRow (h.domainRecords other mem)
  · exact fun other mem => grows.auditRow (h.domainAudit other mem)
  · intro other mem
    rcases Registry.mem_values_put.mp mem with rfl | ⟨mem, -⟩
    · exact grows.canonicalRow linked
    · exact grows.canonicalRow (h.canonicalRecords other mem)
  · exact fun other mem => grows.linkRow (h.canonicalLinks other mem)

theorem insertLink (h : ForeignKeys db) {row : LinkRow} (run : db.insertLink row = .ok db') :
    ForeignKeys db' := by
  unfold Database.insertLink at run
  split at run
  · cases run
    exact h
  · split at run
    · next linked =>
        cases run
        have grows : Grows db { db with canonicalLinks := db.canonicalLinks.put row } :=
          .of_same rfl rfl
        constructor
        · exact fun other mem => grows.domainRow (h.domainRecords other mem)
        · exact fun other mem => grows.auditRow (h.domainAudit other mem)
        · exact fun other mem => grows.canonicalRow (h.canonicalRecords other mem)
        · intro other mem
          rcases Registry.mem_values_put.mp mem with rfl | ⟨mem, -⟩
          · exact grows.linkRow linked
          · exact grows.linkRow (h.canonicalLinks other mem)
    · cases run

end ForeignKeys

end Database

end AgentCompanyOS.Durable
